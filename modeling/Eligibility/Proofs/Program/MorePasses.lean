import Eligibility.Proofs.Program.Buckets

/-!
More passes never hurt. When a rule passes that failed before, and everything
else stays, neither the bucket of the program nor its status gets less
favourable.
-/

set_option autoImplicit false

namespace Eligibility

/-! ## The most favourable first -/

def Status.rank : Status → Nat
  | .qualified => 0
  | .likely => 1
  | .maybe => 2
  | .unlikely => 3
  | .notQualified => 4

instance : LE Status := ⟨fun first second => first.rank ≤ second.rank⟩

instance (first second : Status) : Decidable (first ≤ second) := Nat.decLe _ _

def Bucket.rank : Bucket → Nat
  | .qualified => 0
  | .likely => 1
  | .maybe => 2
  | .notQualified => 3

instance : LE Bucket := ⟨fun first second => first.rank ≤ second.rank⟩

instance (first second : Bucket) : Decidable (first ≤ second) := Nat.decLe _ _

theorem Status.qualified_le (status : Status) : .qualified ≤ status := Nat.zero_le _

theorem Bucket.qualified_le (bucket : Bucket) : .qualified ≤ bucket := Nat.zero_le _

theorem Bucket.le_notQualified (bucket : Bucket) : bucket ≤ .notQualified := by
  cases bucket <;> decide

/-! ## A higher share -/

def Bucket.ofShare (share : ℚ) : Bucket :=
  if 4 / 5 ≤ share then .likely else if 3 / 10 ≤ share then .maybe else .notQualified

section
variable {less more : ℚ} (le : less ≤ more)
include le

theorem Bucket.ofShare_antitone : ofShare more ≤ ofShare less := by
  have reached : ∀ threshold, threshold ≤ less → threshold ≤ more := fun _ under => under.trans le
  unfold ofShare
  by_cases most : 4 / 5 ≤ more
  · rw [if_pos most]
    split_ifs <;> decide
  · rw [if_neg most, if_neg (mt (reached _) most)]
    by_cases some : 3 / 10 ≤ more
    · rw [if_pos some]
      split_ifs <;> decide
    · rw [if_neg (mt (reached _) some)]
      exact le_notQualified _

theorem Classification.ofShare_status_antitone : (ofShare more).status ≤ (ofShare less).status := by
  have reached : ∀ threshold, threshold ≤ less → threshold ≤ more := fun _ under => under.trans le
  rw [ofShare_eq, ofShare_eq]
  -- A row that the higher share misses is missed by the lower one.
  by_cases all : 1 ≤ more
  · rw [if_pos all]
    exact Status.qualified_le _
  · rw [if_neg all, if_neg (mt (reached _) all)]
    by_cases most : 4 / 5 ≤ more
    · rw [if_pos most]
      split_ifs <;> decide
    · rw [if_neg most, if_neg (mt (reached _) most)]
      by_cases half : 1 / 2 ≤ more
      · rw [if_pos half]
        split_ifs <;> decide
      · rw [if_neg half, if_neg (mt (reached _) half)]
        by_cases some : 3 / 10 ≤ more
        · rw [if_pos some]
          split_ifs <;> decide
        · rw [if_neg some, if_neg (mt (reached _) some)]
          exact Nat.le_refl _

end

/-! ## Tallies -/

namespace Tally

/-- As many rules count as before and no fewer pass, no hard stop fails that did
not fail, and answers are missing if they were. -/
structure Improves (before after : Tally) : Prop where
  total : after.totalRules = before.totalRules
  passed : before.passedRules ≤ after.passedRules
  stops : after.hardStopFailures.Sublist before.hardStopFailures
  complete : after.isIncomplete = before.isIncomplete

variable {before after : Tally}

theorem Improves.share_le (improves : Improves before after) : before.share ≤ after.share := by
  rw [share, share, improves.total]
  have passed : (before.passedRules : ℚ) ≤ after.passedRules := by exact_mod_cast improves.passed
  exact div_le_div_of_nonneg_right passed (Nat.cast_nonneg _)

theorem Improves.missing_iff (improves : Improves before after) :
    after.missingFields = [] ↔ before.missingFields = [] := by
  have complete := improves.complete
  rw [isIncomplete, isIncomplete, Bool.not_inj_iff, Bool.eq_iff_iff] at complete
  simpa only [List.isEmpty_iff] using complete

theorem placement_of_no_stops {tally : Tally}
    (notAll : ¬ (0 < tally.totalRules ∧ tally.passedRules = tally.totalRules))
    (free : tally.hardStopFailures = []) :
    tally.placement =
      if tally.missingFields = [] then Bucket.ofShare tally.share else .maybe := by
  rw [placement, if_neg notAll, if_neg (not_not_intro free)]
  by_cases complete : tally.missingFields = []
  · by_cases most : 4 / 5 ≤ tally.share
    · have above : ¬ tally.share < 4 / 5 := Rat.not_lt.mpr most
      simp [complete, Bucket.ofShare, most, above]
    · have below : tally.share < 4 / 5 := Rat.not_le.mp most
      simp [complete, Bucket.ofShare, most, below]
  · rw [if_pos (.inl complete), if_neg complete]

theorem Improves.placement_le (improves : Improves before after) (balanced : after.Balanced) :
    after.placement ≤ before.placement := by
  by_cases all : 0 < after.totalRules ∧ after.passedRules = after.totalRules
  · rw [placement, if_pos all]
    exact Bucket.qualified_le _
  · have notAll : ¬ (0 < before.totalRules ∧ before.passedRules = before.totalRules) := by
      have total := improves.total
      have passed := improves.passed
      have bounded := balanced.total
      omega
    by_cases stopped : before.hardStopFailures = []
    · have free : after.hardStopFailures = [] := List.sublist_nil.mp (stopped ▸ improves.stops)
      rw [placement_of_no_stops all free, placement_of_no_stops notAll stopped]
      by_cases complete : before.missingFields = []
      · rw [if_pos complete, if_pos (improves.missing_iff.mpr complete)]
        exact Bucket.ofShare_antitone improves.share_le
      · rw [if_neg complete, if_neg (mt improves.missing_iff.mp complete)]
        exact Nat.le_refl _
    · have ruledOut : before.placement = .notQualified := by
        rw [placement, if_neg notAll, if_pos stopped]
      rw [ruledOut]
      exact Bucket.le_notQualified _

theorem Improves.status_le (improves : Improves before after) (was : before.Balanced)
    (is : after.Balanced) (name : String) :
    (Verdict.ofTally after name).status ≤ (Verdict.ofTally before name).status := by
  have least := Classification.ofShare_status_antitone improves.share_le
  rwa [← is.classification_ofTally name, ← was.classification_ofTally name] at least

/-! ## Two runs -/

/-- How a run in another context goes: the same rules give a value, and no rule
of the program that passed fails. -/
structure PassesMore (setting : Setting) (scored : List Rule) (first second : Context) : Prop where
  evaluates : ∀ rule ∈ scored, setting.evaluates second rule = setting.evaluates first rule
  meets : ∀ rule ∈ scored, setting.meets first rule = true → setting.meets second rule = true

variable {setting : Setting} {first second : Context}

theorem PassesMore.fails {scored : List Rule} (more : PassesMore setting scored first second) :
    ∀ rule ∈ scored, setting.fails second rule = true → setting.fails first rule = true := by
  intro rule member failed
  obtain ⟨evaluated, missed⟩ := Bool.and_eq_true_iff.mp failed
  have already : setting.meets first rule = false := by
    cases met : setting.meets first rule with
    | false => rfl
    | true => rw [more.meets rule member met] at missed; cases missed
  rw [Setting.fails, ← more.evaluates rule member, evaluated, already]
  rfl

theorem PassesMore.improves {programId : String} {rules : List Rule}
    (more : PassesMore setting (scoredRules programId rules) first second)
    (complete : (ofProgram setting second programId rules).isIncomplete =
      (ofProgram setting first programId rules).isIncomplete) :
    Improves (ofProgram setting first programId rules)
      (ofProgram setting second programId rules) where
  total := by
    rw [(ofProgram_accounts setting first programId rules).totalRules,
      (ofProgram_accounts setting second programId rules).totalRules,
      List.filter_congr more.evaluates]
  passed := by
    rw [(ofProgram_accounts setting first programId rules).passedRules,
      (ofProgram_accounts setting second programId rules).passedRules]
    exact (filter_sublist_filter more.meets).length_le
  stops := by
    rw [(ofProgram_accounts setting first programId rules).hardStopFailures,
      (ofProgram_accounts setting second programId rules).hardStopFailures]
    exact ((filter_sublist_filter more.fails).filter _).map _
  complete := complete

/-- When no rule that passed fails and the same rules give a value, a program
whose profile stays complete, or stays incomplete, gets no less favourable a
bucket and no less favourable a status, which no hard stop has overridden yet. -/
theorem more_passes_never_hurt (programId : String) {rules : List Rule}
    (addressable : rules.length * 16 ≤ 2 ^ 64)
    (evaluates : ∀ rule ∈ scoredRules programId rules,
      setting.evaluates second rule = setting.evaluates first rule)
    (meets : ∀ rule ∈ scoredRules programId rules,
      setting.meets first rule = true → setting.meets second rule = true)
    (complete : (ofProgram setting second programId rules).isIncomplete =
      (ofProgram setting first programId rules).isIncomplete) (name : String) :
    let before := Verdict.ofTally (ofProgram setting first programId rules) name
    let after := Verdict.ofTally (ofProgram setting second programId rules) name
    after.bucket ≤ before.bucket ∧ after.status ≤ before.status := by
  have improves := PassesMore.improves ⟨evaluates, meets⟩ complete
  have was := ofProgram_balanced setting first programId addressable
  have is := ofProgram_balanced setting second programId addressable
  refine ⟨?_, improves.status_le was is name⟩
  rw [was.bucket_ofTally, is.bucket_ofTally]
  exact improves.placement_le is

/-- A hard stop that does not fail any more: from not qualified to qualified, past
a rule that cannot be evaluated in either context. -/
theorem more_passes_never_hurt_of_resident :
    let rules : List Rule :=
      [ (Rule.ofExpr "resident" "food" (.var "resident" none)).withHardStop true,
        .ofExpr "applied" "food" (.var "applied" none),
        .ofExpr "unbound" "food" (.call "unbound" []) ]
    let setting : Setting := ⟨⟨.empty⟩, .explicitOnly, .standard⟩
    let applied := Context.empty.insert "applied" (.bool true)
    let away := applied.insert "resident" (.bool false)
    let here := applied.insert "resident" (.bool true)
    let before := Verdict.ofTally (ofProgram setting away "food" rules) "Food"
    let after := Verdict.ofTally (ofProgram setting here "food" rules) "Food"
    rules.length * 16 ≤ 2 ^ 64 ∧
    (∀ rule ∈ scoredRules "food" rules, setting.evaluates here rule = setting.evaluates away rule) ∧
    (∀ rule ∈ scoredRules "food" rules,
      setting.meets away rule = true → setting.meets here rule = true) ∧
    (ofProgram setting here "food" rules).isIncomplete =
      (ofProgram setting away "food" rules).isIncomplete ∧
    before.bucket = .notQualified ∧ after.bucket = .qualified ∧
    after.bucket ≤ before.bucket ∧ after.status ≤ before.status := by
  intro rules setting applied away here before after
  have evaluates : ∀ rule ∈ scoredRules "food" rules,
      setting.evaluates here rule = setting.evaluates away rule := by decide +kernel
  have meets : ∀ rule ∈ scoredRules "food" rules,
      setting.meets away rule = true → setting.meets here rule = true := by decide +kernel
  have complete : (ofProgram setting here "food" rules).isIncomplete =
      (ofProgram setting away "food" rules).isIncomplete := by decide +kernel
  refine ⟨by decide, evaluates, meets, complete, by decide +kernel, by decide +kernel, ?_⟩
  exact more_passes_never_hurt "food" (by decide) evaluates meets complete "Food"

end Tally

end Eligibility
