import Eligibility.Engine
import Eligibility.Proofs.Program.Buckets

/-!
From the rules of an engine to the bucket of every program. The run over the
rules, the thresholds, the buckets and the override of a hard stop come to one
table over the counts of the run.
-/

set_option autoImplicit false

namespace Eligibility.Engine

/-- The rules lie in the memory of a machine with 64-bit addresses, where each
takes sixteen bytes at the least. -/
def Addressable (engine : Engine) : Prop := engine.rules.length * 16 ≤ 2 ^ 64

instance (engine : Engine) : Decidable engine.Addressable := Nat.decLe _ _

variable {engine : Engine} (ctx : Context)

theorem Addressable.tally_balanced (addressable : engine.Addressable) (programId : String) :
    (engine.tally ctx programId).Balanced :=
  Tally.ofProgram_balanced engine.setting ctx programId addressable

theorem verdict_programId (engine : Engine) (programId : String) :
    (engine.verdict ctx programId).programId = programId := by
  change (Tally.ofProgram engine.setting ctx programId engine.rules).programId = programId
  rw [Tally.ofProgram_eq_concat]
  rfl

theorem mem_evaluate_group (engine : Engine) (bucket : Bucket) {shown : Verdict} :
    shown ∈ (engine.evaluate ctx).group bucket ↔
      ∃ programId ∈ engine.programs,
        (engine.verdict ctx programId).bucket = bucket ∧
        (engine.verdict ctx programId).settled = shown := by
  rw [evaluate, Results.mem_group_ofVerdicts]
  constructor
  · rintro ⟨verdict, listed, held⟩
    obtain ⟨programId, known, rfl⟩ := List.mem_map.mp listed
    exact ⟨programId, known, held⟩
  · rintro ⟨programId, known, held⟩
    exact ⟨_, List.mem_map_of_mem known, held⟩

theorem listed_iff (engine : Engine) {programId : String} (known : programId ∈ engine.programs)
    (bucket : Bucket) :
    (∃ verdict ∈ (engine.evaluate ctx).group bucket, verdict.programId = programId) ↔
      bucket = (engine.verdict ctx programId).bucket := by
  constructor
  · rintro ⟨verdict, shown, named⟩
    obtain ⟨other, _, placed, rfl⟩ := (mem_evaluate_group ctx engine bucket).mp shown
    rw [Verdict.settled_programId, verdict_programId] at named
    rw [← placed, named]
  · rintro rfl
    refine ⟨_, (mem_evaluate_group ctx engine _).mpr ⟨programId, known, rfl, rfl⟩, ?_⟩
    rw [Verdict.settled_programId, verdict_programId]

/-- Every program stands in the bucket that its tally asks for and in no other,
and the verdicts of a bucket are what the bucket says. -/
theorem evaluate_places_programs (addressable : engine.Addressable) :
    (∀ programId ∈ engine.programs,
      let placement := (engine.tally ctx programId).placement
      (engine.evaluate ctx).bucketOf? programId = some placement ∧
      ∀ bucket, (∃ verdict ∈ (engine.evaluate ctx).group bucket, verdict.programId = programId) ↔
        bucket = placement) ∧
    (∀ verdict ∈ (engine.evaluate ctx).qualified,
      verdict.status = .qualified ∧ verdict.score = 95 ∧ verdict.hardStop = none) ∧
    (∀ verdict ∈ (engine.evaluate ctx).likely,
      verdict.status = .likely ∧ verdict.incompleteProfile = false) ∧
    (∀ verdict ∈ (engine.evaluate ctx).notQualified,
      verdict.status = .notQualified ∧ verdict.confidence = .high ∧ verdict.score = 90) := by
  have balanced := addressable.tally_balanced ctx
  refine ⟨?_, ?_, ?_, ?_⟩
  · intro programId known placement
    have placed : (engine.verdict ctx programId).bucket = placement :=
      (balanced programId).bucket_ofTally _
    have listed : ∀ bucket,
        (∃ verdict ∈ (engine.evaluate ctx).group bucket, verdict.programId = programId) ↔
          bucket = placement := by
      intro bucket
      rw [listed_iff ctx engine known, placed]
    exact ⟨Results.bucketOf?_eq_some listed, listed⟩
  · intro verdict shown
    obtain ⟨programId, _, held, rfl⟩ := (mem_evaluate_group ctx engine .qualified).mp shown
    exact (balanced programId).settled_of_qualified held
  · intro verdict shown
    obtain ⟨programId, _, held, rfl⟩ := (mem_evaluate_group ctx engine .likely).mp shown
    obtain ⟨status, complete, same⟩ := Verdict.of_bucket_likely held
    rw [same]
    exact ⟨status, complete⟩
  · intro verdict shown
    obtain ⟨programId, _, held, rfl⟩ := (mem_evaluate_group ctx engine .notQualified).mp shown
    exact (balanced programId).settled_of_notQualified held

/-- A program whose one rule passes, and one that a failed hard stop rules out
although half of its rules pass. -/
theorem evaluate_places_cash_and_food :
    let package := Package.named "benefits" "us" "1.0.0"
      |>.withRule (.ofExpr "resident" "cash" (.literal (.bool true)))
      |>.withRule (.ofExpr "applied" "food" (.literal (.bool true)))
      |>.withRule ((Rule.ofExpr "citizen" "food" (.literal .null)).withHardStop true)
    let engine : Engine :=
      { standard (.midnight ⟨2024, 1, 1, by decide, by decide⟩) with
        packages := [package]
        policy := .explicitOnly }
    engine.Addressable ∧ "cash" ∈ engine.programs ∧ "food" ∈ engine.programs ∧
    (engine.evaluate .empty).bucketOf? "cash" = some .qualified ∧
    (engine.evaluate .empty).bucketOf? "food" = some .notQualified ∧
    ∀ verdict ∈ (engine.evaluate .empty).notQualified,
      verdict.status = .notQualified ∧ verdict.confidence = .high ∧ verdict.score = 90 := by
  intro package engine
  have addressable : engine.Addressable := by decide
  have cash : "cash" ∈ engine.programs := by decide
  have food : "food" ∈ engine.programs := by decide
  have placed := evaluate_places_programs .empty addressable
  refine ⟨addressable, cash, food, ?_, ?_, placed.2.2.2⟩
  · have all : 0 < (engine.tally .empty "cash").totalRules ∧
        (engine.tally .empty "cash").passedRules = (engine.tally .empty "cash").totalRules := by
      decide +kernel
    rw [(placed.1 "cash" cash).1, Tally.placement, if_pos all]
  · have some : ¬ (0 < (engine.tally .empty "food").totalRules ∧
        (engine.tally .empty "food").passedRules = (engine.tally .empty "food").totalRules) := by
      decide +kernel
    have stopped : (engine.tally .empty "food").hardStopFailures ≠ [] := by decide +kernel
    rw [(placed.1 "food" food).1, Tally.placement, if_neg some, if_pos stopped]

end Eligibility.Engine
