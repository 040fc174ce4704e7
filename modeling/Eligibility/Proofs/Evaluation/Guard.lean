import Eligibility.Evaluation.Evaluator
import Eligibility.Proofs.Evaluation.Failures

/-!
The depth guard. Every way to evaluate an expression refuses it exactly when its
operands nest deeper than the limit, before any operator is called. Below the
limit, evaluations nest no deeper than one more than the limit.
-/

set_option autoImplicit false

namespace Eligibility

namespace Expr

variable (ctx : Context) (scope : Scope)

/-- Evaluation with at most so many evaluations inside each other, the outermost
one included. There is no value, and no failure either, where they run out. -/
def evaluateNested : Nat → Expr → OptionT Walk Value
  | 0, _ => failure
  | levels + 1, e => layer ctx scope (evaluateNested levels) e

theorem evaluateNested_eq_lift {levels : Nat} {e : Expr} (enough : e.depth < levels) :
    e.evaluateNested ctx scope levels = monadLift (e.evaluate ctx scope) := by
  induction levels generalizing e with
  | zero => exact absurd enough (Nat.not_lt_zero _)
  | succ levels ih =>
    have inner : ∀ operand ∈ e.operands,
        operand.evaluateNested ctx scope levels = monadLift (operand.evaluate ctx scope) := by
      intro operand member
      -- An operand is shallower, so one level less is still enough for it.
      have below := depth_lt_of_mem_operands member
      exact ih (by omega)
    calc e.evaluateNested ctx scope (levels + 1)
        = layer ctx scope (evaluateNested ctx scope levels) e := rfl
      _ = layer ctx scope (fun operand => monadLift (operand.evaluate ctx scope)) e :=
          layer_congr ctx scope inner
      _ = monadLift (layer ctx scope (evaluate ctx scope) e) := (layer_lift ctx scope _ e).symm
      _ = monadLift (e.evaluate ctx scope) := by rw [← evaluate_eq_layer]

theorem evaluateNested_run {levels : Nat} {e : Expr} (enough : e.depth < levels) :
    (e.evaluateNested ctx scope levels).run = some <$> e.evaluate ctx scope := by
  rw [evaluateNested_eq_lift ctx scope enough]
  exact OptionT.run_lift _

end Expr

namespace Evaluator

def reported? : Except Failure Outcome → Option Failure
  | .ok outcome => outcome.failure?
  | .error failure => some failure

theorem reported?_finish (options : EvaluationOptions) (result : Except Failure Value)
    (failure : Failure) :
    reported? (finish options result) = some failure ↔ result = .error failure := by
  cases result with
  | ok value => simp [finish, reported?, Outcome.failure?]
  | error early =>
    cases strict : options.strict <;> simp [finish, strict, reported?, Outcome.failure?]

theorem depthFailure?_of_lt {e : Expr} {options : EvaluationOptions}
    (deep : options.maxDepth < e.depth) :
    depthFailure? e options = some (.tooDeep e.depth options.maxDepth) := by
  simp [depthFailure?, Expr.measuredDepth_eq_depth, deep]

theorem depthFailure?_of_le {e : Expr} {options : EvaluationOptions}
    (shallow : e.depth ≤ options.maxDepth) : depthFailure? e options = none := by
  simp [depthFailure?, Expr.measuredDepth_eq_depth, shallow]

theorem walk_of_le (evaluator : Evaluator) {e : Expr} (ctx : Context)
    {options : EvaluationOptions} (shallow : e.depth ≤ options.maxDepth) :
    evaluator.walk e ctx options = e.evaluate ctx (evaluator.scope options) := by
  simp [walk, depthFailure?_of_le shallow]

/-- The answer names the depth and the limit exactly if the depth is above the
limit, and then no operator has been called. -/
def RefusesAbove (limit : Nat) (e : Expr) (run : Walk Outcome) : Prop :=
  (∀ depth max, reported? run.result = some (.tooDeep depth max) ↔
    limit < e.depth ∧ depth = e.depth ∧ max = limit) ∧
  (limit < e.depth → run.calls = [])

theorem refusesAbove_conclude {e : Expr} {options : EvaluationOptions} {walk : Walk Value}
    (deep : options.maxDepth < e.depth →
      walk = Walk.fail (.tooDeep e.depth options.maxDepth))
    (shallow : e.depth ≤ options.maxDepth →
      ∀ depth max, walk.result ≠ .error (.tooDeep depth max)) :
    RefusesAbove options.maxDepth e (conclude options walk) := by
  rcases Nat.lt_or_ge options.maxDepth e.depth with above | below
  · rw [deep above]
    refine ⟨fun depth max => ?_, fun _ => rfl⟩
    rw [conclude, reported?_finish]
    simp [Walk.fail, above, eq_comm]
  · refine ⟨fun depth max => ?_, fun above => absurd above (Nat.not_lt.mpr below)⟩
    rw [conclude, reported?_finish]
    constructor
    · exact fun refused => absurd refused (shallow below depth max)
    · exact fun ⟨above, _⟩ => absurd above (Nat.not_lt.mpr below)

variable (evaluator : Evaluator) (e : Expr) (ctx : Context) (options : EvaluationOptions)

theorem evaluate_not_tooDeep (depth max : Nat) :
    (e.evaluate ctx (evaluator.scope options)).result ≠ .error (.tooDeep depth max) := by
  intro refused
  obtain ⟨name, called, problem, same⟩ := Expr.evaluate_failsOnly ctx _ e _ refused
  cases same

theorem refusesAbove_run :
    RefusesAbove options.maxDepth e (evaluator.run e ctx options) := by
  refine refusesAbove_conclude (fun deep => ?_) fun shallow => ?_
  · simp [walk, depthFailure?_of_lt deep]
  · rw [evaluator.walk_of_le ctx shallow]
    exact evaluate_not_tooDeep evaluator e ctx options

theorem refusesAbove_runWithin (race : Race) :
    RefusesAbove options.maxDepth e (evaluator.runWithin race e ctx options) := by
  unfold runWithin
  rcases Nat.lt_or_ge options.maxDepth e.depth with deep | shallow
  · rw [depthFailure?_of_lt deep]
    exact refusesAbove_conclude (fun _ => rfl) fun shallow => absurd shallow (Nat.not_le.mpr deep)
  · rw [depthFailure?_of_le shallow]
    have notDeep : ¬ options.maxDepth < e.depth := Nat.not_lt.mpr shallow
    cases race with
    | walk =>
      exact refusesAbove_conclude (fun deep => absurd deep notDeep)
        fun _ => evaluate_not_tooDeep evaluator e ctx options
    | deadline => exact refusesAbove_conclude (fun deep => absurd deep notDeep) (by simp)

/-- The depth that is measured is the depth of the expression; every evaluation
is refused exactly above the limit; and below it one more nested evaluation than
the limit suffices. -/
theorem depth_guard :
    e.measuredDepth = e.depth ∧
    RefusesAbove options.maxDepth e (evaluator.run e ctx options) ∧
    (∀ race, RefusesAbove options.maxDepth e (evaluator.runWithin race e ctx options)) ∧
    (∀ rule data, prepare rule data = .ok (e, ctx) →
      RefusesAbove options.maxDepth e (evaluator.runJson rule data options) ∧
      ∀ race, RefusesAbove options.maxDepth e (evaluator.runJsonWithin race rule data options)) ∧
    (e.depth ≤ options.maxDepth →
      (e.evaluateNested ctx (evaluator.scope options) (options.maxDepth + 1)).run =
        some <$> evaluator.walk e ctx options) := by
  refine ⟨e.measuredDepth_eq_depth, refusesAbove_run evaluator e ctx options,
    refusesAbove_runWithin evaluator e ctx options, ?_, ?_⟩
  · intro rule data parsed
    simp only [runJson, runJsonWithin, parsed]
    exact ⟨refusesAbove_run evaluator e ctx options,
      refusesAbove_runWithin evaluator e ctx options⟩
  · intro shallow
    rw [evaluator.walk_of_le ctx shallow]
    exact Expr.evaluateNested_run ctx _ (Nat.lt_succ_of_le shallow)

/-- A call of a registered operator over a fallback over a list: refused at the
limit of two without a call, and evaluated by four levels at the limit of three. -/
theorem depth_guard_of_mixed_operands :
    let e : Expr := .call "probe" [.var "x" (some (.list [.var "y" none]))]
    let rule : Json := .object
      [("probe", .object [("var", .array [.text "x", .array [.object [("var", .text "y")]]])])]
    let evaluator : Evaluator := ⟨Registry.empty.register "probe" fun _ => .ok .null⟩
    let limited (limit : Nat) := { EvaluationOptions.standard with maxDepth := limit }
    prepare rule (.object []) = .ok (e, .empty) ∧
    reported? (evaluator.evaluateJson rule (.object []) (limited 2)) = some (.tooDeep 3 2) ∧
    (evaluator.runJson rule (.object []) (limited 2)).calls = [] ∧
    e.depth ≤ 3 ∧
    (e.evaluateNested .empty (evaluator.scope (limited 3)) 4).run =
      some <$> evaluator.walk e .empty (limited 3) := by
  intro e rule evaluator limited
  have parsed : prepare rule (.object []) = .ok (e, .empty) := rfl
  have shallow : e.depth ≤ 3 := by decide
  have refused := ((depth_guard evaluator e .empty (limited 2)).2.2.2.1 rule _ parsed).1
  refine ⟨parsed, (refused.1 3 2).mpr ⟨by decide, by decide, rfl⟩, refused.2 (by decide), shallow, ?_⟩
  exact (depth_guard evaluator e .empty (limited 3)).2.2.2.2 shallow

end Evaluator

end Eligibility
