import Eligibility.Proofs.Evaluation.EntryPoints
import Eligibility.Proofs.Expr.Grammar

/-!
The stages of an evaluation from JSON. The rule is read before the data, both
before the depth is looked at, and operators are called after that; so what is
wrong with the first stage that fails is what the answer tells. Nothing fails
without a reason of its own stage.
-/

set_option autoImplicit false

namespace Eligibility

theorem Outcome.failure?_eq_some_iff {outcome : Outcome} {failure : Failure} :
    outcome.failure? = some failure ↔ outcome.result = .error failure := by
  obtain ⟨result, timed⟩ := outcome
  cases result <;> simp [failure?]

namespace Evaluator

open Eligibility.Expr (IsRule)

/-! ## What stops an evaluation -/

def IsObject (data : Json) : Prop := ∃ fields, data = .object fields

section
variable (limit : Nat) (rule data : Json)

/-- The evaluation of a rule on data is stopped for what the code stands for,
all earlier stages being passed. Only these stages stop it. -/
def Stops : FailureCode → Prop
  | .invalidRule => ¬ IsRule rule
  | .invalidData => IsRule rule ∧ ¬ IsObject data
  | .maxDepthExceeded => IsObject data ∧ ∃ e, Expr.ofJson rule = .ok e ∧ limit < e.depth
  | .operatorError | .timeout | .unknownError => False

def Passes (e : Expr) : Prop := Expr.ofJson rule = .ok e ∧ IsObject data ∧ e.depth ≤ limit

/-- A failure tells what stopped the evaluation. Where nothing did, it is the
failure of an operator that the rule calls. -/
structure FailsByStage (failure? : Option Failure) : Prop where
  stopped_iff : ∀ code ≠ .operatorError,
    failure?.map Failure.code = some code ↔ Stops limit rule data code
  blamed : ∀ failure, failure? = some failure → failure.code = .operatorError →
    ∃ e, Passes limit rule data e ∧ e.Blames failure

end

section
variable {limit : Nat} {rule data : Json}

theorem isRule_of_ofJson {e : Expr} (read : Expr.ofJson rule = .ok e) : IsRule rule :=
  (Expr.exists_ok_ofJson rule).mp ⟨e, read⟩

theorem Stops.unique {code other : FailureCode} (first : Stops limit rule data code)
    (second : Stops limit rule data other) : code = other := by
  cases code <;> cases other <;> grind [Stops, isRule_of_ofJson]

theorem Passes.not_stops {e : Expr} (passes : Passes limit rule data e) (code : FailureCode) :
    ¬ Stops limit rule data code := by
  cases code <;> grind [Stops, Passes, isRule_of_ofJson]

theorem failsByStage_of_stops (failure : Failure) (stops : Stops limit rule data failure.code) :
    FailsByStage limit rule data (some failure) where
  stopped_iff code _ := by
    rw [Option.map_some, Option.some_inj]
    exact ⟨fun same => same ▸ stops, stops.unique⟩
  blamed := by
    rintro _ ⟨⟩ ofOperator
    rw [ofOperator] at stops
    exact stops.elim

theorem failsByStage_of_passes {failure? : Option Failure} {e : Expr}
    (passes : Passes limit rule data e)
    (blames : ∀ failure, failure? = some failure → e.Blames failure) :
    FailsByStage limit rule data failure? where
  stopped_iff code other := by
    refine ⟨fun told => ?_, fun stops => absurd stops (passes.not_stops code)⟩
    obtain ⟨failure, failed, rfl⟩ := Option.map_eq_some_iff.mp told
    obtain ⟨name, _, problem, rfl⟩ := blames failure failed
    exact absurd rfl other
  blamed failure failed _ := ⟨e, passes, blames failure failed⟩

end

/-! ## Stage by stage -/

variable (evaluator : Evaluator) (options : EvaluationOptions)

def jsonResult (rule data : Json) : Except Failure Value :=
  match prepare rule data with
  | .ok (e, ctx) => (evaluator.walk e ctx options).result
  | .error failure => .error failure

theorem evaluateJson_eq_finish (rule data : Json) :
    evaluator.evaluateJson rule data options =
      finish options (evaluator.jsonResult options rule data) := by
  unfold evaluateJson runJson jsonResult
  cases prepare rule data <;> rfl

theorem failsByStage_walk {rule data : Json} {e : Expr} (read : Expr.ofJson rule = .ok e)
    (object : IsObject data) (ctx : Context) (timed : Bool) :
    FailsByStage options.maxDepth rule data
      (Outcome.failure? ⟨(evaluator.walk e ctx options).result, timed⟩) := by
  rcases Nat.lt_or_ge options.maxDepth e.depth with deep | shallow
  · rw [walk, depthFailure?_of_lt deep]
    exact failsByStage_of_stops (.tooDeep ..) ⟨object, e, read, deep⟩
  · rw [evaluator.walk_of_le ctx shallow]
    refine failsByStage_of_passes ⟨read, object, shallow⟩ fun failure failed => ?_
    exact Expr.evaluate_failsOnly ctx _ e failure (Outcome.failure?_eq_some_iff.mp failed)

theorem failsByStage_jsonResult (rule data : Json) (timed : Bool) :
    FailsByStage options.maxDepth rule data
      (Outcome.failure? ⟨evaluator.jsonResult options rule data, timed⟩) := by
  unfold jsonResult prepare
  cases read : Expr.ofJson rule with
  | error failure =>
    have unread : ¬ IsRule rule := fun given => by
      obtain ⟨e, parsed⟩ := (Expr.exists_ok_ofJson rule).mpr given
      rw [read] at parsed
      cases parsed
    have code : failure.code = .invalidRule := Expr.ofJson_blamesRule rule failure read
    refine failsByStage_of_stops failure ?_
    rw [code]
    exact unread
  | ok e =>
    cases data with
    | object fields => exact evaluator.failsByStage_walk options read ⟨fields, rfl⟩ _ timed
    | _ => exact failsByStage_of_stops (.invalidData _) ⟨isRule_of_ofJson read, nofun⟩

/-- An evaluation that tells its failures fails by stages. -/
theorem evaluateJson_failsByStage (rule data : Json) :
    (IsRule rule ↔ ∃ e, Expr.ofJson rule = .ok e) ∧
    ∃ outcome, evaluator.evaluateJson rule data { options with strict := false } = .ok outcome ∧
      FailsByStage options.maxDepth rule data outcome.failure? := by
  let lenient := { options with strict := false }
  refine ⟨(Expr.exists_ok_ofJson rule).symm,
    ⟨evaluator.jsonResult lenient rule data, options.measureTime⟩, ?_, ?_⟩
  · rw [evaluateJson_eq_finish]
    cases evaluator.jsonResult lenient rule data <;> rfl
  · exact evaluator.failsByStage_jsonResult lenient rule data options.measureTime

/-- An operator that breaks off inside another call: it is blamed by name, unless
the rule, the data or the limit stop the evaluation before it. -/
theorem evaluateJson_failsByStage_of_broken_probe :
    let evaluator : Evaluator := ⟨Registry.empty.register "probe" fun _ => .error (.brokeOff none)⟩
    let rule : Json := .object [("cat", .array [.text "a", .object [("probe", .array [])]])]
    let e : Expr := .call "cat" [.literal (.text "a"), .call "probe" []]
    let lenient (limit : Nat) :=
      { EvaluationOptions.standard with maxDepth := limit, strict := false }
    (∃ outcome, evaluator.evaluateJson .null .null (lenient 0) = .ok outcome ∧
      outcome.failure?.map Failure.code = some .invalidRule) ∧
    (∃ outcome, evaluator.evaluateJson rule .null (lenient 0) = .ok outcome ∧
      outcome.failure?.map Failure.code = some .invalidData) ∧
    (∃ outcome, evaluator.evaluateJson rule (.object []) (lenient 1) = .ok outcome ∧
      outcome.failure?.map Failure.code = some .maxDepthExceeded) ∧
    ∃ outcome, evaluator.evaluateJson rule (.object []) (lenient 2) = .ok outcome ∧
      outcome.failure? = some (.operator "probe" (.brokeOff none)) ∧
      Passes 2 rule (.object []) e ∧ e.Blames (.operator "probe" (.brokeOff none)) := by
  intro evaluator rule e lenient
  have read : Expr.ofJson rule = .ok e := rfl
  have stopped := fun limit rule data =>
    (evaluator.evaluateJson_failsByStage (lenient limit) rule data).2
  refine ⟨?_, ?_, ?_, ?_⟩
  · obtain ⟨outcome, answer, fails⟩ := stopped 0 .null .null
    exact ⟨outcome, answer,
      (fails.stopped_iff .invalidRule nofun).mpr fun given => given.notNull rfl⟩
  · obtain ⟨outcome, answer, fails⟩ := stopped 0 rule .null
    exact ⟨outcome, answer,
      (fails.stopped_iff .invalidData nofun).mpr ⟨isRule_of_ofJson read, nofun⟩⟩
  · obtain ⟨outcome, answer, fails⟩ := stopped 1 rule (.object [])
    exact ⟨outcome, answer,
      (fails.stopped_iff .maxDepthExceeded nofun).mpr ⟨⟨[], rfl⟩, e, read, by decide⟩⟩
  · have broken : evaluator.evaluateJson rule (.object []) (lenient 2) =
        .ok ⟨.error (.operator "probe" (.brokeOff none)), false⟩ :=
      evaluator.evaluate_eq_finish e .empty (lenient 2)
    obtain ⟨outcome, answer, fails⟩ := stopped 2 rule (.object [])
    cases broken.symm.trans answer
    obtain ⟨called, passes, blames⟩ := fails.blamed _ rfl rfl
    cases read.symm.trans passes.1
    exact ⟨_, broken, rfl, passes, blames⟩

end Evaluator

end Eligibility
