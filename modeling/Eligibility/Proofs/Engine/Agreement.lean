import Eligibility.Proofs.Engine.Rearrangement
import Eligibility.Proofs.Program.Aggregation

/-!
The results of all programs beside the verdict on one. A program with a scored
rule has one verdict among the results, and it is the verdict that the program
gets on its own, settled and in the bucket that it asks for.
-/

set_option autoImplicit false

namespace Eligibility.Engine

section
variable (engine : Engine) (ctx : Context)

theorem nodup_programs : engine.programs.Nodup := nodup_distinct _

theorem evaluate_eq_collect :
    engine.evaluate ctx = Results.collect (engine.programs.map (engine.verdict ctx)) :=
  (Results.collect_eq_ofVerdicts _).symm

theorem programIds_toList_evaluate :
    ((engine.evaluate ctx).toList.map fun entry => entry.2.programId).Perm engine.programs := by
  have listed := Results.toList_collect (engine.programs.map (engine.verdict ctx))
  rw [← evaluate_eq_collect] at listed
  simpa [Function.comp_def, verdict_programId] using listed.map fun entry => entry.2.programId

theorem bucketOf?_evaluate (programId : String) :
    (engine.evaluate ctx).bucketOf? programId =
      (engine.evaluateProgram? programId ctx).map Verdict.bucket := by
  simp only [Results.bucketOf?, find?_evaluate, evaluateProgram?, List.contains_iff_mem,
    apply_ite (Option.map _), Option.map_some, Option.map_none]

theorem verdict?_evaluate (programId : String) :
    (engine.evaluate ctx).verdict? programId =
      (engine.evaluateProgram? programId ctx).map Verdict.settled := by
  simp only [Results.verdict?, find?_evaluate, evaluateProgram?, List.contains_iff_mem,
    apply_ite (Option.map _), Option.map_some, Option.map_none]

theorem isSome_evaluateProgram? (programId : String) :
    (engine.evaluateProgram? programId ctx).isSome ↔ programId ∈ engine.programs := by
  simp [evaluateProgram?]

theorem programIds_group_evaluate (bucket : Bucket) :
    ((engine.evaluate ctx).group bucket).map (·.programId) =
      engine.programs.filter fun programId =>
        (engine.evaluate ctx).bucketOf? programId == some bucket := by
  have grouped : ((engine.evaluate ctx).group bucket).map (·.programId) =
      engine.programs.filter fun programId => (engine.verdict ctx programId).bucket == bucket := by
    rw [evaluate, Results.group_ofVerdicts, Results.inBucket]
    simp [List.filter_map, Function.comp_def, verdict_programId]
  rw [grouped]
  apply List.filter_congr
  intro programId known
  rw [bucketOf?_evaluate, evaluateProgram?, if_pos (List.contains_iff_mem.mpr known)]
  rfl

end

/-- Evaluating all programs and evaluating one agree. The results hold every
program with a scored rule once and in order, and no other; and what they say of
a program is what it is told on its own, but for the override of a hard stop. -/
theorem evaluate_agrees_with_evaluateProgram (engine : Engine) (ctx : Context) :
    let results := engine.evaluate ctx
    engine.programs.Nodup ∧
    results.totalPrograms = engine.programs.length ∧
    (results.toList.map fun entry => entry.2.programId).Perm engine.programs ∧
    (∀ bucket, (results.group bucket).map (·.programId) =
      engine.programs.filter fun programId => results.bucketOf? programId == some bucket) ∧
    ∀ programId,
      ((engine.evaluateProgram? programId ctx).isSome ↔ programId ∈ engine.programs) ∧
      ((results.bucketOf? programId).isSome ↔ programId ∈ engine.programs) ∧
      results.bucketOf? programId =
        (engine.evaluateProgram? programId ctx).map Verdict.bucket ∧
      results.verdict? programId =
        (engine.evaluateProgram? programId ctx).map fun verdict =>
          if verdict.isHardStopped then
            { verdict with
              status := .notQualified
              confidence := .high
              score := max verdict.score 90 }
          else verdict := by
  intro results
  refine ⟨engine.nodup_programs, ?_, engine.programIds_toList_evaluate ctx,
    engine.programIds_group_evaluate ctx, fun programId => ⟨?_, ?_, ?_, ?_⟩⟩
  · exact List.length_map _
  · exact engine.isSome_evaluateProgram? ctx programId
  · rw [engine.bucketOf?_evaluate ctx programId, Option.isSome_map]
    exact engine.isSome_evaluateProgram? ctx programId
  · exact engine.bucketOf?_evaluate ctx programId
  · exact engine.verdict?_evaluate ctx programId

end Eligibility.Engine
