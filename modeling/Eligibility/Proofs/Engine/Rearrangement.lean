import Eligibility.Engine
import Eligibility.Proofs.Engine.Placement
import Eligibility.Proofs.Program.Reordering

/-!
Engines with other packages. What an engine says about a program depends on the
scored rules of that program alone: neither their order nor how they are packed
matters, nor what else is loaded.
-/

set_option autoImplicit false

namespace Eligibility.Engine

variable (ctx : Context) {programId : String}

/-! ## One program in the results -/

theorem mem_programs_iff (engine : Engine) :
    programId ∈ engine.programs ↔ Tally.scoredRules programId engine.rules ≠ [] := by
  unfold programs
  rw [mem_distinct, List.mem_map]
  constructor
  · rintro ⟨rule, listed, rfl⟩
    obtain ⟨loaded, scored⟩ := List.mem_filter.mp listed
    apply List.ne_nil_of_mem (a := rule)
    exact List.mem_filter.mpr ⟨loaded, by simp [scored]⟩
  · intro some
    obtain ⟨rule, member⟩ := List.exists_mem_of_ne_nil _ some
    obtain ⟨loaded, held⟩ := List.mem_filter.mp member
    simp only [Bool.and_eq_true, beq_iff_eq] at held
    exact ⟨rule, List.mem_filter.mpr ⟨loaded, held.2⟩, held.1⟩

theorem eq_of_mem_evaluate (engine : Engine) {entry : Bucket × Verdict}
    (listed : entry ∈ (engine.evaluate ctx).toList) :
    entry.2.programId ∈ engine.programs ∧
      entry = ((engine.verdict ctx entry.2.programId).bucket,
        (engine.verdict ctx entry.2.programId).settled) := by
  obtain ⟨bucket, shown⟩ := entry
  obtain ⟨other, known, rfl, rfl⟩ :=
    (mem_evaluate_group ctx engine bucket).mp (Results.mem_toList.mp listed)
  simp only [Verdict.settled_programId, verdict_programId]
  exact ⟨known, trivial⟩

theorem find?_evaluate (engine : Engine) (programId : String) :
    (engine.evaluate ctx).find? programId =
      if programId ∈ engine.programs then
        some ((engine.verdict ctx programId).bucket, (engine.verdict ctx programId).settled)
      else none := by
  unfold Results.find?
  cases found : (engine.evaluate ctx).toList.find? fun entry => entry.2.programId == programId with
  | none =>
    have absent : programId ∉ engine.programs := by
      intro known
      have shown := (mem_evaluate_group ctx engine _).mpr ⟨programId, known, rfl, rfl⟩
      have listed := List.find?_eq_none.mp found _ (Results.mem_toList.mpr shown)
      simp [verdict_programId] at listed
    rw [if_neg absent]
  | some entry =>
    -- Whatever is found under the id is the one entry that the program has.
    obtain ⟨known, same⟩ := eq_of_mem_evaluate ctx engine (List.mem_of_find?_eq_some found)
    have named : entry.2.programId = programId := by simpa using List.find?_some found
    rw [named] at known same
    rw [if_pos known, same]

/-! ## Two engines -/

/-- Engines that evaluate alike and hold the same scored rules of a program, in
whatever packages and order, beside whatever else. -/
structure AgreeOn (programId : String) (first second : Engine) : Prop where
  options : first.options = second.options
  policy : first.policy = second.policy
  operators : first.operators = second.operators
  now : first.now = second.now
  rules : (Tally.scoredRules programId first.rules).Perm
    (Tally.scoredRules programId second.rules)

variable {first second : Engine}

theorem AgreeOn.setting (agree : AgreeOn programId first second) :
    first.setting = second.setting := by
  simp only [Engine.setting, agree.options, agree.policy, agree.operators, agree.now]

theorem AgreeOn.tally (agree : AgreeOn programId first second) :
    (first.tally ctx programId).Rearranged (second.tally ctx programId) := by
  unfold Engine.tally
  rw [agree.setting]
  exact Tally.ofProgram_perm _ ctx agree.rules

theorem AgreeOn.verdict (agree : AgreeOn programId first second) :
    (first.verdict ctx programId).Alike (second.verdict ctx programId) :=
  Verdict.ofTally_alike (agree.tally ctx) _ _

theorem AgreeOn.mem_programs (agree : AgreeOn programId first second) :
    programId ∈ first.programs ↔ programId ∈ second.programs := by
  rw [mem_programs_iff, mem_programs_iff, ← List.length_pos_iff, agree.rules.length_eq,
    List.length_pos_iff]

theorem AgreeOn.rel_of_known (agree : AgreeOn programId first second) {α : Type}
    {related : α → α → Prop} {one other : α} (held : related one other) :
    Option.Rel related (if programId ∈ first.programs then some one else none)
      (if programId ∈ second.programs then some other else none) := by
  by_cases known : programId ∈ first.programs
  · rw [if_pos known, if_pos (agree.mem_programs.mp known)]
    exact .some held
  · rw [if_neg known, if_neg (mt agree.mem_programs.mpr known)]
    exact .none

/-- What an engine says about a program, on its own and among the results, says
any other that evaluates alike and holds the same scored rules of it. -/
theorem verdict_of_same_scored_rules (agree : AgreeOn programId first second) :
    (first.tally ctx programId).Rearranged (second.tally ctx programId) ∧
    (first.verdict ctx programId).Alike (second.verdict ctx programId) ∧
    (first.verdict ctx programId).bucket = (second.verdict ctx programId).bucket ∧
    Option.Rel Verdict.Alike (first.evaluateProgram? programId ctx)
      (second.evaluateProgram? programId ctx) ∧
    Option.Rel Verdict.Alike ((first.evaluate ctx).verdict? programId)
      ((second.evaluate ctx).verdict? programId) ∧
    (first.evaluate ctx).bucketOf? programId = (second.evaluate ctx).bucketOf? programId := by
  refine ⟨agree.tally ctx, agree.verdict ctx, (agree.verdict ctx).bucket, ?_, ?_, ?_⟩
  · simp only [evaluateProgram?, List.contains_iff_mem]
    exact agree.rel_of_known (agree.verdict ctx)
  · simp only [Results.verdict?, find?_evaluate, apply_ite (Option.map Prod.snd),
      Option.map_some, Option.map_none]
    exact agree.rel_of_known (agree.verdict ctx).settled
  · simp only [Results.bucketOf?, find?_evaluate, apply_ite (Option.map Prod.fst),
      Option.map_some, Option.map_none, agree.mem_programs, (agree.verdict ctx).bucket]

/-- Two failed hard stops in two packages or in one, beside a draft and another
program: the engines name different rules, and agree on the verdict otherwise. -/
theorem verdict_of_same_scored_rules_repacked :
    let citizen := (Rule.ofExpr "citizen" "food" (.literal .null)).withHardStop true
    let resident := (Rule.ofExpr "resident" "food" (.var "state" none)).withHardStop true
    let aged := Rule.ofExpr "aged" "cash" (.literal (.bool true))
    let base : Engine :=
      { standard (.midnight ⟨2024, 1, 1, by decide, by decide⟩) with policy := .explicitOnly }
    let first : Engine := { base with packages :=
      [(Package.named "all" "us" "1.0.0").withRule citizen |>.withRule aged |>.withRule resident] }
    let second : Engine := { base with packages :=
      [(Package.named "state" "us" "1.0.0").withRule resident |>.withRule aged.asDraft,
        (Package.named "federal" "us" "1.0.0").withRule citizen] }
    AgreeOn "food" first second ∧
    (first.verdict .empty "food").hardStop = some "citizen" ∧
    (second.verdict .empty "food").hardStop = some "resident" ∧
    (first.verdict .empty "food").Alike (second.verdict .empty "food") ∧
    (first.evaluate .empty).bucketOf? "food" = (second.evaluate .empty).bucketOf? "food" := by
  intro citizen resident aged base first second
  have agree : AgreeOn "food" first second :=
    { options := rfl
      policy := rfl
      operators := rfl
      now := rfl
      rules := .swap resident citizen [] }
  obtain ⟨_, alike, _, _, _, bucket⟩ := verdict_of_same_scored_rules .empty agree
  refine ⟨agree, ?_, ?_, alike, bucket⟩
  · decide +kernel
  · decide +kernel

end Eligibility.Engine
