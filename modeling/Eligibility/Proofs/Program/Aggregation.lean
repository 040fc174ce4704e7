import Mathlib.Data.List.Perm.Basic
import Eligibility.Proofs.Program.Buckets

/-!
Results collected one verdict at a time. A verdict goes to the end of its bucket
and is settled on the way, which does not change the bucket that it asks for. So
a bucket holds a part of the verdicts in their order, none is lost or doubled,
and collecting what results show gives the same results.
-/

set_option autoImplicit false

namespace Eligibility

/-! ## Settled verdicts -/

namespace Verdict

variable {verdict : Verdict}

theorem settled_of_stopped (stopped : verdict.isHardStopped = true) :
    verdict.settled = { verdict with
      status := .notQualified
      confidence := .high
      score := max verdict.score hardStopScore } := if_pos stopped

theorem settled_of_not_stopped (free : verdict.isHardStopped = false) :
    verdict.settled = verdict := if_neg (by simp [free])

@[simp] theorem isHardStopped_settled (verdict : Verdict) :
    verdict.settled.isHardStopped = verdict.isHardStopped := by
  cases stopped : verdict.isHardStopped with
  | false => rw [settled_of_not_stopped stopped, stopped]
  | true =>
    -- The override leaves the hard stop, and a status that it overrides again.
    rw [settled_of_stopped stopped]
    simp only [isHardStopped, Bool.and_eq_true] at stopped
    simp [isHardStopped, stopped.2]

@[simp] theorem settled_settled (verdict : Verdict) :
    verdict.settled.settled = verdict.settled := by
  cases stopped : verdict.isHardStopped with
  | false => rw [settled_of_not_stopped stopped, settled_of_not_stopped stopped]
  | true =>
    have again : verdict.settled.isHardStopped = true := by simpa using stopped
    rw [settled_of_stopped again, settled_of_stopped stopped]
    simp

@[simp] theorem bucket_settled (verdict : Verdict) :
    verdict.settled.bucket = verdict.bucket := by
  cases stopped : verdict.isHardStopped with
  | false => rw [settled_of_not_stopped stopped]
  | true =>
    have again : verdict.settled.isHardStopped = true := by simpa using stopped
    rw [bucket, if_pos again, bucket, if_pos stopped]

end Verdict

namespace Results

/-! ## One more verdict -/

def empty : Results := ⟨[], [], [], [], 0⟩

def push (results : Results) (bucket : Bucket) (verdict : Verdict) : Results :=
  let counted := { results with totalPrograms := results.totalPrograms + 1 }
  match bucket with
  | .qualified => { counted with qualified := counted.qualified ++ [verdict] }
  | .likely => { counted with likely := counted.likely ++ [verdict] }
  | .maybe => { counted with maybe := counted.maybe ++ [verdict] }
  | .notQualified => { counted with notQualified := counted.notQualified ++ [verdict] }

/-- Adds a verdict to its bucket, which is found before the verdict is settled. -/
def add (results : Results) (verdict : Verdict) : Results :=
  results.push verdict.bucket verdict.settled

def collect (verdicts : List Verdict) : Results := verdicts.foldl add empty

theorem group_add (results : Results) (verdict : Verdict) (bucket : Bucket) :
    (results.add verdict).group bucket = results.group bucket ++ inBucket bucket [verdict] := by
  unfold add
  cases placed : verdict.bucket <;> cases bucket <;> simp [push, group, inBucket, placed]

@[simp] theorem totalPrograms_add (results : Results) (verdict : Verdict) :
    (results.add verdict).totalPrograms = results.totalPrograms + 1 := by
  unfold add
  cases verdict.bucket <;> rfl

theorem toList_eq_flatMap (results : Results) :
    results.toList = [Bucket.qualified, .likely, .maybe, .notQualified].flatMap fun bucket =>
      (results.group bucket).map (bucket, ·) := by
  simp [toList, group]

theorem toList_add (results : Results) (verdict : Verdict) :
    (results.add verdict).toList.Perm ((verdict.bucket, verdict.settled) :: results.toList) := by
  have added : ([Bucket.qualified, .likely, .maybe, .notQualified].flatMap fun bucket =>
      (inBucket bucket [verdict]).map (bucket, ·)) = [(verdict.bucket, verdict.settled)] := by
    cases placed : verdict.bucket <;> simp [inBucket, placed]
  rw [toList_eq_flatMap, toList_eq_flatMap]
  simp only [group_add, List.map_append]
  refine (List.flatMap_append_perm _ _ _).symm.trans ?_
  rw [added]
  exact List.perm_append_singleton _ _

/-! ## All verdicts -/

@[simp] theorem inBucket_append (bucket : Bucket) (first second : List Verdict) :
    inBucket bucket (first ++ second) = inBucket bucket first ++ inBucket bucket second := by
  simp [inBucket]

theorem inBucket_inBucket (bucket other : Bucket) (verdicts : List Verdict) :
    inBucket bucket (inBucket other verdicts) =
      if bucket = other then inBucket bucket verdicts else [] := by
  unfold inBucket
  simp only [List.filter_map, List.map_map, List.filter_filter, Function.comp_def,
    Verdict.bucket_settled, Verdict.settled_settled]
  by_cases same : bucket = other
  · subst same
    simp
  · have apart : ∀ verdict : Verdict,
        (verdict.bucket == bucket && verdict.bucket == other) = false := by
      intro verdict
      simp only [Bool.and_eq_false_iff, beq_eq_false_iff_ne]
      exact or_iff_not_imp_left.mpr fun placed => by rwa [not_not.mp placed]
    simp [apart, same]

theorem group_foldl_add (results : Results) (verdicts : List Verdict) (bucket : Bucket) :
    (verdicts.foldl add results).group bucket =
      results.group bucket ++ inBucket bucket verdicts := by
  induction verdicts generalizing results with
  | nil => simp [inBucket]
  | cons verdict rest ih =>
    rw [List.foldl_cons, ih, group_add, List.append_assoc, ← inBucket_append, List.singleton_append]

theorem totalPrograms_foldl_add (results : Results) (verdicts : List Verdict) :
    (verdicts.foldl add results).totalPrograms = results.totalPrograms + verdicts.length := by
  induction verdicts generalizing results with
  | nil => rfl
  | cons verdict rest ih =>
    rw [List.foldl_cons, ih, totalPrograms_add, List.length_cons]
    omega

theorem toList_foldl_add (results : Results) (verdicts : List Verdict) :
    (verdicts.foldl add results).toList.Perm
      (verdicts.map (fun verdict => (verdict.bucket, verdict.settled)) ++ results.toList) := by
  induction verdicts generalizing results with
  | nil => exact .refl _
  | cons verdict rest ih =>
    -- The new entry is somewhere in the middle and moves to the front.
    refine (ih (results.add verdict)).trans ?_
    exact ((results.toList_add verdict).append_left _).trans List.perm_middle

theorem eq_of_groups {first second : Results}
    (groups : ∀ bucket, first.group bucket = second.group bucket)
    (total : first.totalPrograms = second.totalPrograms) : first = second := by
  obtain ⟨q₁, l₁, m₁, n₁, t₁⟩ := first
  obtain ⟨q₂, l₂, m₂, n₂, t₂⟩ := second
  have qualified := groups .qualified
  have likely := groups .likely
  have maybe := groups .maybe
  have notQualified := groups .notQualified
  simp_all [group]

theorem collect_eq_ofVerdicts (verdicts : List Verdict) : collect verdicts = ofVerdicts verdicts := by
  apply eq_of_groups
  · intro bucket
    rw [collect, group_foldl_add, group_ofVerdicts]
    cases bucket <;> rfl
  · rw [collect, totalPrograms_foldl_add]
    exact Nat.zero_add _

theorem toList_collect (verdicts : List Verdict) :
    (collect verdicts).toList.Perm
      (verdicts.map fun verdict => (verdict.bucket, verdict.settled)) := by
  have run := toList_foldl_add empty verdicts
  rwa [show empty.toList = [] from rfl, List.append_nil] at run

/-! ## The partition -/

theorem inBucket_shown (bucket : Bucket) (verdicts : List Verdict) :
    inBucket bucket ((collect verdicts).toList.map Prod.snd) = inBucket bucket verdicts := by
  have shown : (collect verdicts).toList.map Prod.snd =
      inBucket .qualified verdicts ++ inBucket .likely verdicts ++ inBucket .maybe verdicts ++
        inBucket .notQualified verdicts := by
    rw [collect_eq_ofVerdicts]
    simp [toList, ofVerdicts, Function.comp_def]
  simp only [shown, inBucket_append, inBucket_inBucket]
  cases bucket <;> simp

theorem collect_shown (verdicts : List Verdict) :
    collect ((collect verdicts).toList.map Prod.snd) = collect verdicts := by
  have same : ofVerdicts ((collect verdicts).toList.map Prod.snd) = ofVerdicts verdicts := by
    apply eq_of_groups
    · intro bucket
      rw [group_ofVerdicts, group_ofVerdicts, inBucket_shown]
    · change ((collect verdicts).toList.map Prod.snd).length = verdicts.length
      rw [List.length_map, (toList_collect verdicts).length_eq, List.length_map]
  rw [collect_eq_ofVerdicts, same, collect_eq_ofVerdicts]

/-- Collecting verdicts, whatever is in them, splits them into four lists that
keep their order. Only the override of a hard stop changes a verdict, and it
leaves it in its bucket, so nothing moves when what is shown is collected again.
The three groups of the partition hold the same verdicts once more. -/
theorem collect_partitions (verdicts : List Verdict) :
    let results := collect verdicts
    let partition := results.toPartition
    results = ofVerdicts verdicts ∧
    (∀ bucket, results.group bucket =
      (verdicts.filter fun verdict => verdict.bucket == bucket).map fun verdict =>
        if verdict.isHardStopped then
          { verdict with
            status := .notQualified
            confidence := .high
            score := max verdict.score 90 }
        else verdict) ∧
    results.totalPrograms = verdicts.length ∧
    results.totalPrograms = results.qualified.length + results.likely.length +
      results.maybe.length + results.notQualified.length ∧
    results.toList.Perm (verdicts.map fun verdict => (verdict.bucket, verdict.settled)) ∧
    (∀ entry ∈ results.toList, entry.2.bucket = entry.1) ∧
    collect (results.toList.map Prod.snd) = results ∧
    partition =
      ⟨results.qualified ++ results.likely, results.maybe, results.notQualified,
        results.totalPrograms⟩ ∧
    (partition.qualified ++ partition.maybe ++ partition.notQualified).Perm
      (verdicts.map Verdict.settled) := by
  intro results partition
  have total : results.totalPrograms = verdicts.length :=
    (totalPrograms_foldl_add empty verdicts).trans (Nat.zero_add _)
  have listed := toList_collect verdicts
  refine ⟨collect_eq_ofVerdicts verdicts, ?_, total, ?_, listed, ?_, collect_shown verdicts, rfl,
    ?_⟩
  · intro bucket
    rw [show results = ofVerdicts verdicts from collect_eq_ofVerdicts verdicts, group_ofVerdicts]
    rfl
  · have lengths := listed.length_eq
    simp only [toList, List.length_append, List.length_map] at lengths
    rw [total, ← lengths]
  · intro entry shown
    obtain ⟨verdict, _, rfl⟩ := List.mem_map.mp (listed.mem_iff.mp shown)
    exact verdict.bucket_settled
  · have groups : partition.qualified ++ partition.maybe ++ partition.notQualified =
        results.toList.map Prod.snd := by
      simp [partition, toPartition, toList, Function.comp_def]
    rw [groups]
    simpa [Function.comp_def] using listed.map Prod.snd

end Results

end Eligibility
