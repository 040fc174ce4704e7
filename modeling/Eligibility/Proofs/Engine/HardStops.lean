import Eligibility.Proofs.Engine.Agreement

/-!
What the policy of hard stops decides. A stricter policy finds more of the
failed rules to be hard stops, and nothing else of a run turns on it. So it may
rule a program out, but it moves no program elsewhere and no qualified one.
-/

set_option autoImplicit false

namespace Eligibility

theorem HardStopPolicy.isHardStop_of_flag (policy : HardStopPolicy) {rule : Rule} {flag : Bool}
    (flagged : rule.hardStop = some flag) : policy.isHardStop rule = flag := by
  unfold isHardStop
  rw [flagged]

/-! ## Runs under two policies -/

namespace Tally

def withStops (tally : Tally) (stops : List String) : Tally :=
  { tally with hardStopFailures := stops }

/-- The second tally is the first but for more hard stops that failed. -/
structure StopsMore (mild strict : Tally) : Prop where
  rest : strict.withStops [] = mild.withStops []
  stops : mild.hardStopFailures.Sublist strict.hardStopFailures

section
variable {mild strict : Tally}

theorem StopsMore.eq_withStops (more : StopsMore mild strict) :
    strict = mild.withStops strict.hardStopFailures := by
  have restored : (strict.withStops []).withStops strict.hardStopFailures =
      (mild.withStops []).withStops strict.hardStopFailures := by rw [more.rest]
  exact restored

theorem StopsMore.antisymm (more : StopsMore mild strict) (back : StopsMore strict mild) :
    strict = mild := by
  rw [more.eq_withStops, ← more.stops.antisymm back.stops]
  rfl

end

def Setting.withPolicy (setting : Setting) (policy : HardStopPolicy) : Setting :=
  { setting with policy := policy }

variable (setting : Setting) (ctx : Context)

theorem part_withStops (policy : HardStopPolicy) (rule : Rule) :
    (part (setting.withPolicy policy) ctx rule).withStops [] =
      (part setting ctx rule).withStops [] := by
  have result : (setting.withPolicy policy).result rule ctx = setting.result rule ctx := rfl
  unfold part
  rw [result]
  cases setting.result rule ctx <;> rfl

theorem concat_withStops (programId : String) (parts : List Tally) :
    (concat programId parts).withStops [] =
      concat programId (parts.map fun part => part.withStops []) := by
  simp [concat, withStops, List.flatMap_map, Function.comp_def]

theorem ofProgram_withStops (policy : HardStopPolicy) (programId : String) (rules : List Rule) :
    (ofProgram (setting.withPolicy policy) ctx programId rules).withStops [] =
      (ofProgram setting ctx programId rules).withStops [] := by
  rw [ofProgram_eq_concat, ofProgram_eq_concat, concat_withStops, concat_withStops, List.map_map,
    List.map_map]
  simp only [Function.comp_def, part_withStops]

theorem ofProgram_stopsMore {mild strict : HardStopPolicy} (programId : String)
    {rules : List Rule}
    (implies : ∀ rule ∈ scoredRules programId rules,
      mild.isHardStop rule = true → strict.isHardStop rule = true) :
    StopsMore (ofProgram (setting.withPolicy mild) ctx programId rules)
      (ofProgram (setting.withPolicy strict) ctx programId rules) where
  rest := by rw [ofProgram_withStops, ofProgram_withStops]
  stops := by
    rw [(ofProgram_accounts (setting.withPolicy mild) ctx programId rules).hardStopFailures,
      (ofProgram_accounts (setting.withPolicy strict) ctx programId rules).hardStopFailures]
    refine List.Sublist.map _ (filter_sublist_filter fun rule failed => ?_)
    exact implies rule (List.mem_of_mem_filter failed)

end Tally

/-! ## Verdicts under two policies -/

namespace Verdict

def withoutStop (verdict : Verdict) : Verdict := { verdict with reason := "", hardStop := none }

/-- The verdict without all that the override of a hard stop may write. -/
def withoutDecision (verdict : Verdict) : Verdict :=
  { verdict.withoutStop with status := .notQualified, confidence := .high, score := hardStopScore }

theorem withoutDecision_congr {first second : Verdict}
    (same : first.withoutStop = second.withoutStop) :
    first.withoutDecision = second.withoutDecision := by
  unfold withoutDecision
  rw [same]

theorem withoutDecision_settled (verdict : Verdict) :
    verdict.settled.withoutDecision = verdict.withoutDecision := by
  unfold settled
  split <;> rfl

end Verdict

namespace Tally

variable {mild strict : Tally}

theorem StopsMore.withoutStop (more : StopsMore mild strict) (name : String) :
    (Verdict.ofTally strict name).withoutStop = (Verdict.ofTally mild name).withoutStop := by
  rw [more.eq_withStops]
  rfl

/-- Hard stops are looked at after the status, and one that failed before is
among those that fail now. -/
theorem StopsMore.bucket (more : StopsMore mild strict) (name : String) :
    ((Verdict.ofTally strict name).bucket = (Verdict.ofTally mild name).bucket ∨
      (Verdict.ofTally strict name).bucket = .notQualified) ∧
    ((Verdict.ofTally mild name).bucket = .qualified →
      (Verdict.ofTally strict name).bucket = .qualified) := by
  have classified : (Verdict.ofTally strict name).classification =
      (Verdict.ofTally mild name).classification := by
    rw [more.eq_withStops]
    rfl
  have missing : strict.missingFields = mild.missingFields := by
    rw [more.eq_withStops]
    rfl
  rw [bucket_ofTally, bucket_ofTally, classified, bucketUnder, bucketUnder, missing]
  by_cases best : (Verdict.ofTally mild name).classification.status = .qualified
  · rw [if_pos best, if_pos best]
    exact ⟨.inl rfl, id⟩
  · rw [if_neg best, if_neg best]
    refine ⟨?_, fun held => absurd held (by split_ifs <;> decide)⟩
    cases stopped : strict.hardStopFailures with
    | cons rule rest => exact .inr (if_pos (List.cons_ne_nil rule rest))
    | nil =>
      have free : mild.hardStopFailures = [] := List.sublist_nil.mp (stopped ▸ more.stops)
      rw [free]
      exact .inl rfl

end Tally

namespace Engine

/-- How the results on a program under a stricter policy differ from those under
a milder one, if they do. -/
structure DemotesOnly (mild strict : Engine) (ctx : Context) (programId : String) : Prop where
  bucket : (strict.evaluate ctx).bucketOf? programId = (mild.evaluate ctx).bucketOf? programId ∨
    (strict.evaluate ctx).bucketOf? programId = some .notQualified
  qualified : (mild.evaluate ctx).bucketOf? programId = some .qualified →
    (strict.evaluate ctx).bucketOf? programId = some .qualified
  tally : (mild.tally ctx programId).StopsMore (strict.tally ctx programId)
  verdict : (strict.evaluateProgram? programId ctx).map Verdict.withoutStop =
    (mild.evaluateProgram? programId ctx).map Verdict.withoutStop
  shown : ((strict.evaluate ctx).verdict? programId).map Verdict.withoutDecision =
    ((mild.evaluate ctx).verdict? programId).map Verdict.withoutDecision

variable (engine : Engine) (ctx : Context) {mild strict : HardStopPolicy}

variable {engine ctx} in
theorem tally_stopsMore {programId : String}
    (implies : ∀ rule ∈ Tally.scoredRules programId engine.rules,
      mild.isHardStop rule = true → strict.isHardStop rule = true) :
    ((engine.withPolicy mild).tally ctx programId).StopsMore
      ((engine.withPolicy strict).tally ctx programId) :=
  Tally.ofProgram_stopsMore engine.setting ctx programId implies

theorem evaluateProgram?_withPolicy (policy : HardStopPolicy) (programId : String) :
    (engine.withPolicy policy).evaluateProgram? programId ctx =
      (engine.evaluateProgram? programId ctx).map fun _ =>
        (engine.withPolicy policy).verdict ctx programId := by
  have programs : (engine.withPolicy policy).programs = engine.programs := rfl
  unfold evaluateProgram?
  rw [programs]
  split <;> rfl

theorem demotesOnly_withPolicy (programId : String)
    (implies : ∀ rule ∈ engine.rules,
      mild.isHardStop rule = true → strict.isHardStop rule = true) :
    DemotesOnly (engine.withPolicy mild) (engine.withPolicy strict) ctx programId := by
  have more : ((engine.withPolicy mild).tally ctx programId).StopsMore
      ((engine.withPolicy strict).tally ctx programId) :=
    tally_stopsMore fun rule scored => implies rule (List.mem_of_mem_filter scored)
  let before := (engine.withPolicy mild).verdict ctx programId
  let after := (engine.withPolicy strict).verdict ctx programId
  have demoted : after.bucket = before.bucket ∨ after.bucket = .notQualified :=
    (more.bucket _).1
  have kept : before.bucket = .qualified → after.bucket = .qualified := (more.bucket _).2
  have verdict : after.withoutStop = before.withoutStop := more.withoutStop _
  have told := fun policy => engine.evaluateProgram?_withPolicy ctx policy programId
  cases known : engine.evaluateProgram? programId ctx with
  | none =>
    simp only [known, Option.map_none] at told
    refine ⟨?_, ?_, more, by rw [told, told], ?_⟩
    · simp [bucketOf?_evaluate, told]
    · simp [bucketOf?_evaluate, told]
    · simp [verdict?_evaluate, told]
  | some own =>
    simp only [known, Option.map_some] at told
    refine ⟨?_, ?_, more, ?_, ?_⟩
    · simp only [bucketOf?_evaluate, told, Option.map_some, Option.some_inj]
      exact demoted
    · simp only [bucketOf?_evaluate, told, Option.map_some, Option.some_inj]
      exact kept
    · rw [told, told]
      exact congrArg some verdict
    · simp only [verdict?_evaluate, told, Option.map_some, Verdict.withoutDecision_settled]
      exact congrArg some (Verdict.withoutDecision_congr verdict)

theorem evaluate_withPolicy_of_flags
    (flagged : ∀ rule ∈ engine.rules, rule.isScored = true → rule.hardStop.isSome = true)
    (first second : HardStopPolicy) :
    (engine.withPolicy first).evaluate ctx = (engine.withPolicy second).evaluate ctx := by
  have agree : ∀ policy other : HardStopPolicy, ∀ programId,
      ∀ rule ∈ Tally.scoredRules programId engine.rules,
        policy.isHardStop rule = true → other.isHardStop rule = true := by
    intro policy other programId rule member stops
    obtain ⟨listed, scored⟩ := List.mem_filter.mp member
    have has := flagged rule listed (Bool.and_eq_true_iff.mp scored).2
    obtain ⟨flag, flag_eq⟩ := Option.isSome_iff_exists.mp has
    rwa [HardStopPolicy.isHardStop_of_flag _ flag_eq] at stops ⊢
  have tallies : (engine.withPolicy first).tally ctx = (engine.withPolicy second).tally ctx := by
    funext programId
    exact (tally_stopsMore (agree second first programId)).antisymm
      (tally_stopsMore (agree first second programId))
  have verdicts :
      (engine.withPolicy first).verdict ctx = (engine.withPolicy second).verdict ctx := by
    funext programId
    unfold verdict
    rw [tallies]
    rfl
  unfold evaluate
  rw [verdicts]
  rfl

/-- A policy that finds more rules to be hard stops moves programs to the last
bucket and nowhere else, never a qualified one, and changes nothing but what hard
stops decide. Where every scored rule has a flag, no policy changes anything. -/
theorem hard_stop_policy_only_demotes :
    (∀ mild strict : HardStopPolicy,
      (∀ rule ∈ engine.rules, mild.isHardStop rule = true → strict.isHardStop rule = true) →
      ∀ programId, DemotesOnly (engine.withPolicy mild) (engine.withPolicy strict) ctx programId) ∧
    ((∀ rule ∈ engine.rules, rule.isScored = true → rule.hardStop.isSome = true) →
      ∀ first second : HardStopPolicy,
        (engine.withPolicy first).evaluate ctx = (engine.withPolicy second).evaluate ctx) :=
  ⟨fun _ _ implies programId => engine.demotesOnly_withPolicy ctx programId implies,
    engine.evaluate_withPolicy_of_flags ctx⟩

/-- Of two programs with a hard stop by text or by id, the policy rules out the one
whose rule fails. Once the rules have flags it rules out neither. -/
theorem hard_stop_policy_only_demotes_cash_and_food :
    let cash := Rule.ofExpr "resident" "cash" (.literal (.bool true))
    let applied := Rule.ofExpr "applied" "food" (.literal (.bool true))
    let limit := (Rule.ofExpr "limit" "food" (.literal .null)).withExplanation "Income limit"
    let loaded (rules : List Rule) : Engine :=
      { standard (.midnight ⟨2024, 1, 1, by decide, by decide⟩) with
        packages := [rules.foldl Package.withRule (Package.named "benefits" "us" "1.0.0")] }
    let engine := loaded [cash, applied, limit]
    let flagged := loaded ([cash, applied, limit].map fun rule => rule.withHardStop false)
    let strict : HardStopPolicy := ⟨["resident"], [fun text => text == "Income limit"]⟩
    let bucket? (policy : HardStopPolicy) (programId : String) :=
      ((engine.withPolicy policy).evaluate .empty).bucketOf? programId
    (∀ rule ∈ engine.rules,
      HardStopPolicy.explicitOnly.isHardStop rule = true → strict.isHardStop rule = true) ∧
    bucket? .explicitOnly "cash" = some .qualified ∧ bucket? strict "cash" = some .qualified ∧
    bucket? .explicitOnly "food" = some .maybe ∧ bucket? strict "food" = some .notQualified ∧
    DemotesOnly (engine.withPolicy .explicitOnly) (engine.withPolicy strict) .empty "food" ∧
    (∀ rule ∈ flagged.rules, rule.isScored = true → rule.hardStop.isSome = true) ∧
    (flagged.withPolicy .explicitOnly).evaluate .empty =
      (flagged.withPolicy strict).evaluate .empty := by
  intro cash applied limit loaded engine flagged strict bucket?
  have implies : ∀ rule ∈ engine.rules,
      HardStopPolicy.explicitOnly.isHardStop rule = true → strict.isHardStop rule = true := by
    decide
  have flags : ∀ rule ∈ flagged.rules, rule.isScored = true → rule.hardStop.isSome = true := by
    decide
  have demotes := (hard_stop_policy_only_demotes engine .empty).1 .explicitOnly strict implies
  have spared : bucket? .explicitOnly "cash" = some .qualified := by decide +kernel
  refine ⟨implies, spared, (demotes "cash").qualified spared, by decide +kernel, by decide +kernel,
    demotes "food", flags, ?_⟩
  exact (hard_stop_policy_only_demotes flagged .empty).2 flags .explicitOnly strict

end Engine

end Eligibility
