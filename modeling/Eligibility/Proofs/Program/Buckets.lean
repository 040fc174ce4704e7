import Eligibility.Program.Results
import Eligibility.Proofs.Program.Accounting
import Eligibility.Proofs.Program.Thresholds

/-!
Where a program ends up. The bucket of a verdict follows from the counts, the
hard stops and the missing answers of its tally alone, and what results show in
a bucket agrees with the bucket.
-/

set_option autoImplicit false

namespace Eligibility

/-! ## Groups of results -/

namespace Results

def group (results : Results) : Bucket → List Verdict
  | .qualified => results.qualified
  | .likely => results.likely
  | .maybe => results.maybe
  | .notQualified => results.notQualified

theorem group_ofVerdicts (verdicts : List Verdict) (bucket : Bucket) :
    (ofVerdicts verdicts).group bucket = inBucket bucket verdicts := by
  cases bucket <;> rfl

theorem mem_group_ofVerdicts {verdicts : List Verdict} {bucket : Bucket} {shown : Verdict} :
    shown ∈ (ofVerdicts verdicts).group bucket ↔
      ∃ verdict ∈ verdicts, verdict.bucket = bucket ∧ verdict.settled = shown := by
  simp [group_ofVerdicts, inBucket, and_assoc]

theorem mem_toList {results : Results} {bucket : Bucket} {verdict : Verdict} :
    (bucket, verdict) ∈ results.toList ↔ verdict ∈ results.group bucket := by
  cases bucket <;> simp [toList, group]

theorem bucketOf?_eq_some {results : Results} {programId : String} {bucket : Bucket}
    (listed : ∀ other, (∃ verdict ∈ results.group other, verdict.programId = programId) ↔
      other = bucket) : results.bucketOf? programId = some bucket := by
  obtain ⟨verdict, shown, named⟩ := (listed bucket).mpr rfl
  unfold bucketOf? find?
  cases found : results.toList.find? fun entry => entry.2.programId == programId with
  | none =>
    have absent := List.find?_eq_none.mp found (bucket, verdict) (mem_toList.mpr shown)
    simp [named] at absent
  | some entry =>
    have there : (entry.1, entry.2) ∈ results.toList := List.mem_of_find?_eq_some found
    have named : entry.2.programId = programId := by simpa using List.find?_some found
    have same := (listed entry.1).mp ⟨entry.2, mem_toList.mp there, named⟩
    rw [Option.map_some, same]

end Results

/-! ## Verdicts in a bucket -/

namespace Verdict

@[simp] theorem settled_programId (verdict : Verdict) :
    verdict.settled.programId = verdict.programId := by
  unfold settled
  split <;> rfl

theorem bucket_cases (verdict : Verdict) :
    (verdict.isHardStopped = true ∧ verdict.bucket = .notQualified ∧
      verdict.settled = { verdict with
        status := .notQualified
        confidence := .high
        score := max verdict.score hardStopScore }) ∨
    (verdict.isHardStopped = false ∧ verdict.settled = verdict ∧
      ((verdict.status = .qualified ∧ verdict.bucket = .qualified) ∨
      (verdict.status ≠ .qualified ∧
        (verdict.incompleteProfile = true ∨ verdict.score < decisiveScore) ∧
        verdict.bucket = .maybe) ∨
      (verdict.status ≠ .qualified ∧ verdict.incompleteProfile = false ∧
        decisiveScore ≤ verdict.score ∧
        verdict.bucket = if verdict.status = .likely then .likely else .notQualified))) := by
  unfold bucket settled
  cases stopped : verdict.isHardStopped with
  | true => exact .inl ⟨rfl, rfl, rfl⟩
  | false =>
    refine .inr ⟨rfl, rfl, ?_⟩
    by_cases best : verdict.status = .qualified
    · exact .inl ⟨best, by simp [best]⟩
    · by_cases unsure : verdict.incompleteProfile = true ∨ verdict.score < decisiveScore
      · exact .inr (.inl ⟨best, unsure, by simp [best, unsure]⟩)
      · refine .inr (.inr ⟨best, ?_, ?_, by simp [best, unsure]⟩)
        · simpa using fun incomplete => unsure (.inl incomplete)
        · exact Nat.le_of_not_lt fun low => unsure (.inr low)

theorem of_bucket_qualified {verdict : Verdict} (held : verdict.bucket = .qualified) :
    verdict.status = .qualified ∧ verdict.settled = verdict := by
  have ways := verdict.bucket_cases
  rw [held] at ways
  grind

theorem of_bucket_likely {verdict : Verdict} (held : verdict.bucket = .likely) :
    verdict.status = .likely ∧ verdict.incompleteProfile = false ∧ verdict.settled = verdict := by
  have ways := verdict.bucket_cases
  rw [held] at ways
  grind

theorem of_bucket_notQualified {verdict : Verdict} (held : verdict.bucket = .notQualified) :
    verdict.status ≠ .qualified ∧
      (verdict.settled = { verdict with
          status := .notQualified
          confidence := .high
          score := max verdict.score hardStopScore } ∨
        verdict.settled = verdict ∧ verdict.status ≠ .likely ∧ decisiveScore ≤ verdict.score) := by
  have ways := verdict.bucket_cases
  rw [held] at ways
  have free : verdict.isHardStopped = true → verdict.status ≠ .qualified := by
    simp +contextual [isHardStopped]
  grind

def classification (verdict : Verdict) : Classification :=
  ⟨verdict.status, verdict.confidence, verdict.score⟩

end Verdict

/-! ## From a tally to a bucket -/

namespace Tally

def share (tally : Tally) : ℚ := (tally.passedRules : ℚ) / tally.totalRules

def placement (tally : Tally) : Bucket :=
  if 0 < tally.totalRules ∧ tally.passedRules = tally.totalRules then .qualified
  else if tally.hardStopFailures ≠ [] then .notQualified
  else if tally.missingFields ≠ [] ∨ 3 / 10 ≤ tally.share ∧ tally.share < 4 / 5 then .maybe
  else if 4 / 5 ≤ tally.share then .likely
  else .notQualified

/-- What the counts of every run keep to, in words of 64 bits. -/
structure Balanced (tally : Tally) : Prop where
  total : tally.totalRules = tally.passedRules + tally.failedRules.length
  stops : tally.hardStopFailures.Sublist tally.failedRules
  fits : tally.totalRules * 10 < 2 ^ 64

/-- Rules that lie in memory with 64-bit addresses, sixteen bytes each at the
least, are too few for the counts of a run to leave a word. -/
theorem ofProgram_balanced (setting : Setting) (ctx : Context) (programId : String)
    {rules : List Rule} (addressable : rules.length * 16 ≤ 2 ^ 64) :
    (ofProgram setting ctx programId rules).Balanced := by
  have accounts := ofProgram_accounts setting ctx programId rules
  refine ⟨accounts.totalRules_eq, accounts.hardStopFailures_sublist, ?_⟩
  have counted := accounts.totalRules_add_errors
  have scored : (scoredRules programId rules).length ≤ rules.length := List.length_filter_le _ _
  omega

variable {tally : Tally}

theorem Balanced.one_le_share_iff (balanced : Balanced tally) :
    1 ≤ tally.share ↔ 0 < tally.totalRules ∧ tally.passedRules = tally.totalRules := by
  have total := balanced.total
  rcases Nat.eq_zero_or_pos tally.totalRules with none | some
  · have nothing : tally.share = 0 := by simp [share, none]
    rw [nothing, none]
    norm_num
  · have positive : (0 : ℚ) < tally.totalRules := by exact_mod_cast some
    rw [share, one_le_div positive, Nat.cast_le]
    omega

theorem Balanced.classification_ofTally (balanced : Balanced tally) (name : String) :
    (Verdict.ofTally tally name).classification = Classification.ofShare tally.share := by
  have total := balanced.total
  exact Classification.ofCounts_ofNat (by omega) balanced.fits

def bucketUnder (tally : Tally) (classification : Classification) : Bucket :=
  if classification.status = .qualified then .qualified
  else if tally.hardStopFailures ≠ [] then .notQualified
  else if tally.missingFields ≠ [] ∨ classification.score < Verdict.decisiveScore then .maybe
  else if classification.status = .likely then .likely
  else .notQualified

theorem bucket_ofTally (tally : Tally) (name : String) :
    (Verdict.ofTally tally name).bucket =
      tally.bucketUnder (Verdict.ofTally tally name).classification := by
  have stops : (Verdict.ofTally tally name).hardStop = tally.hardStopFailures.head? := rfl
  have incomplete : (Verdict.ofTally tally name).incompleteProfile = tally.isIncomplete := rfl
  unfold Verdict.bucket Verdict.isHardStopped bucketUnder Verdict.classification
  rw [stops, incomplete]
  by_cases best : (Verdict.ofTally tally name).status = .qualified
  · simp [best]
  · cases failures : tally.hardStopFailures with
    | cons rule rest => simp [best]
    | nil =>
      by_cases low : (Verdict.ofTally tally name).score < Verdict.decisiveScore <;>
        cases missing : tally.missingFields <;> simp [best, low, missing, isIncomplete]

theorem Balanced.bucket_ofTally (balanced : Balanced tally) (name : String) :
    (Verdict.ofTally tally name).bucket = tally.placement := by
  rw [Tally.bucket_ofTally, balanced.classification_ofTally, Classification.ofShare_eq]
  simp only [placement, ← balanced.one_le_share_iff, bucketUnder]
  -- Between three tenths and four fifths two rows apply, and both score too low.
  by_cases all : 1 ≤ tally.share
  · simp [all]
  · by_cases most : 4 / 5 ≤ tally.share
    · have above : ¬ tally.share < 4 / 5 := Rat.not_lt.mpr most
      simp [all, most, above, Verdict.decisiveScore]
    · have below : tally.share < 4 / 5 := Rat.not_le.mp most
      by_cases some : 3 / 10 ≤ tally.share
      · by_cases half : 1 / 2 ≤ tally.share <;>
          simp only [all, most, half, some, below] <;> simp [Verdict.decisiveScore]
      · have less : ¬ 1 / 2 ≤ tally.share := by grind
        simp only [all, most, less, some]
        simp [Verdict.decisiveScore, Classification.notQualified]

/-! ## What the buckets show -/

theorem Balanced.no_stops (balanced : Balanced tally)
    (all : tally.passedRules = tally.totalRules) : tally.hardStopFailures = [] := by
  have total := balanced.total
  have none : tally.failedRules = [] := List.length_eq_zero_iff.mp (by omega)
  exact List.sublist_nil.mp (none ▸ balanced.stops)

theorem Balanced.settled_of_qualified (balanced : Balanced tally) {name : String}
    (held : (Verdict.ofTally tally name).bucket = .qualified) :
    let shown := (Verdict.ofTally tally name).settled
    shown.status = .qualified ∧ shown.score = 95 ∧ shown.hardStop = none := by
  have classified := balanced.classification_ofTally name
  have stops : (Verdict.ofTally tally name).hardStop = tally.hardStopFailures.head? := rfl
  rw [Classification.ofShare_eq] at classified
  generalize Verdict.ofTally tally name = verdict at held classified stops
  obtain ⟨status, same⟩ := Verdict.of_bucket_qualified held
  rw [same]
  by_cases all : 1 ≤ tally.share
  · have counts := (balanced.one_le_share_iff.mp all).2
    simp only [all, if_true, Verdict.classification, Classification.mk.injEq] at classified
    rw [balanced.no_stops counts] at stops
    exact ⟨status, classified.2.2, stops⟩
  · -- Below a share of one no classification is `qualified`.
    grind [Verdict.classification, Classification.notQualified]

theorem Balanced.settled_of_notQualified (balanced : Balanced tally) {name : String}
    (held : (Verdict.ofTally tally name).bucket = .notQualified) :
    let shown := (Verdict.ofTally tally name).settled
    shown.status = .notQualified ∧ shown.confidence = .high ∧ shown.score = 90 := by
  have classified := balanced.classification_ofTally name
  rw [Classification.ofShare_eq] at classified
  generalize Verdict.ofTally tally name = verdict at held classified
  obtain ⟨worse, stopped | ⟨same, unlikely, decided⟩⟩ := Verdict.of_bucket_notQualified held
  · rw [stopped]
    refine ⟨rfl, rfl, ?_⟩
    -- Only the classification that a hard stop leaves alone scores more.
    have low : verdict.score ≤ 90 := by
      grind [Verdict.classification, Classification.notQualified]
    exact Nat.max_eq_right low
  · rw [same]
    grind [Verdict.classification, Verdict.decisiveScore, Classification.notQualified]

end Tally

end Eligibility
