import Mathlib.Data.List.Perm.Basic
import Eligibility.Program.Results
import Eligibility.Proofs.Program.Accounting

/-!
Rules in another order. A run over the same scored rules in any order counts the
same, and its lists have the same entries; so its verdict differs at most in the
order of entries, in the failed rule that is named as the hard stop, and in
which of several attachments of one key is kept.
-/

set_option autoImplicit false

namespace Eligibility

/-! ## Tallies -/

namespace Tally

structure Rearranged (first second : Tally) : Prop where
  programId : first.programId = second.programId
  passedRules : first.passedRules = second.passedRules
  totalRules : first.totalRules = second.totalRules
  rulesCited : first.rulesCited.Perm second.rulesCited
  details : first.details.Perm second.details
  calculations : first.calculations.Perm second.calculations
  failedRules : first.failedRules.Perm second.failedRules
  hardStopFailures : first.hardStopFailures.Perm second.hardStopFailures
  errors : first.errors.Perm second.errors
  documents : first.documents.Perm second.documents
  nextSteps : first.nextSteps.Perm second.nextSteps
  missingFields : first.missingFields.Perm second.missingFields

theorem eraseDups_perm {paths others : List String} (perm : paths.Perm others) :
    paths.eraseDups.Perm others.eraseDups := by
  apply (List.perm_ext_iff_of_nodup (nodup_eraseDups _) (nodup_eraseDups _)).mpr
  intro path
  rw [List.mem_eraseDups, List.mem_eraseDups]
  exact perm.mem_iff

theorem concat_perm (programId : String) {parts others : List Tally} (perm : parts.Perm others) :
    Rearranged (concat programId parts) (concat programId others) where
  programId := rfl
  passedRules := (perm.map _).sum_nat
  totalRules := (perm.map _).sum_nat
  rulesCited := perm.flatMap_right _
  details := perm.flatMap_right _
  calculations := perm.flatMap_right _
  failedRules := perm.flatMap_right _
  hardStopFailures := perm.flatMap_right _
  errors := perm.flatMap_right _
  documents := perm.flatMap_right _
  nextSteps := perm.flatMap_right _
  missingFields := eraseDups_perm (perm.flatMap_right _)

theorem ofProgram_perm (setting : Setting) (ctx : Context) {programId : String}
    {rules others : List Rule}
    (perm : (scoredRules programId rules).Perm (scoredRules programId others)) :
    Rearranged (ofProgram setting ctx programId rules)
      (ofProgram setting ctx programId others) := by
  rw [ofProgram_eq_concat, ofProgram_eq_concat]
  exact concat_perm programId (perm.map _)

end Tally

/-! ## Verdicts -/

theorem distinct_perm {κ : Type} [DecidableEq κ] {keys others : List κ} (perm : keys.Perm others) :
    (distinct keys).Perm (distinct others) := by
  apply (List.perm_ext_iff_of_nodup (nodup_distinct _) (nodup_distinct _)).mpr
  intro key
  rw [mem_distinct, mem_distinct]
  exact perm.mem_iff

namespace Verdict

/-- Verdicts on one program that may differ in the order of entries, in the
program name, in the hard stop they name and, with it, in the reason, and in
which attachment of one key they keep. -/
structure Alike (first second : Verdict) : Prop where
  programId : first.programId = second.programId
  status : first.status = second.status
  confidence : first.confidence = second.confidence
  score : first.score = second.score
  passedRules : first.passedRules = second.passedRules
  totalRules : first.totalRules = second.totalRules
  incompleteProfile : first.incompleteProfile = second.incompleteProfile
  hardStop : first.hardStop.isSome = second.hardStop.isSome
  reason : first.hardStop = second.hardStop → first.reason = second.reason
  rulesCited : first.rulesCited.Perm second.rulesCited
  details : first.details.Perm second.details
  calculations : first.calculations.Perm second.calculations
  missingFields : first.missingFields.Perm second.missingFields
  documents : (first.documents.map (·.id)).Perm (second.documents.map (·.id))
  nextSteps : (first.nextSteps.map (·.text)).Perm (second.nextSteps.map (·.text))

theorem ofTally_alike {first second : Tally} (same : first.Rearranged second)
    (name other : String) : Alike (ofTally first name) (ofTally second other) where
  programId := same.programId
  status := by simp only [ofTally, same.passedRules, same.totalRules]
  confidence := by simp only [ofTally, same.passedRules, same.totalRules]
  score := by simp only [ofTally, same.passedRules, same.totalRules]
  passedRules := same.passedRules
  totalRules := same.totalRules
  incompleteProfile := by simp only [ofTally, Tally.isIncomplete, same.missingFields.isEmpty_eq]
  hardStop := by
    -- Which failed hard stop comes first is a matter of order, that there is one is not.
    have none : first.hardStopFailures = [] ↔ second.hardStopFailures = [] := by
      rw [← List.length_eq_zero_iff, same.hardStopFailures.length_eq, List.length_eq_zero_iff]
    simp only [ofTally]
    rw [Bool.eq_iff_iff, List.isSome_head?, List.isSome_head?]
    exact not_congr none
  reason named := by
    simp only [ofTally] at named ⊢
    rw [named, same.passedRules, same.totalRules]
  rulesCited := same.rulesCited
  details := same.details
  calculations := same.calculations
  missingFields := same.missingFields
  documents := by
    simp only [ofTally, distinctDocuments, map_distinctBy]
    exact distinct_perm (same.documents.map _)
  nextSteps := by
    simp only [ofTally, distinctSteps, map_distinctBy]
    exact distinct_perm (same.nextSteps.map _)

variable {first second : Verdict}

theorem Alike.isHardStopped (alike : first.Alike second) :
    first.isHardStopped = second.isHardStopped := by
  simp only [Verdict.isHardStopped, alike.status, alike.hardStop]

theorem Alike.bucket (alike : first.Alike second) : first.bucket = second.bucket := by
  simp only [Verdict.bucket, alike.isHardStopped, alike.status, alike.incompleteProfile,
    alike.score]

theorem Alike.settled (alike : first.Alike second) : first.settled.Alike second.settled := by
  unfold Verdict.settled
  rw [alike.isHardStopped]
  split
  · exact { alike with status := rfl, confidence := rfl, score := by rw [alike.score] }
  · exact alike

end Verdict

end Eligibility
