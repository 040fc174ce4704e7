import Mathlib.Data.List.Forall2
import Eligibility.Evaluation.Expr

/-!
Core operators on operands that evaluate. Such an operator works on the values of all
its operands; the calls are those that the operands make. An order of two operands
holds if their values compare, and compare so.
-/

set_option autoImplicit false

namespace Eligibility

theorem Connective.ofName?_of_core {name : String} {core : CoreOperator}
    (named : CoreOperator.ofName? name = some core) : Connective.ofName? name = none := by
  unfold Connective.ofName?
  split <;> first | rfl | cases named

theorem Walk.calls_ofAnswer {α : Type} (name : String) (answer : Except OperatorProblem α) :
    (Walk.ofAnswer name answer).calls = [] := by
  cases answer <;> rfl

namespace Expr

variable (ctx : Context) (scope : Scope)

def Give (operands : List Expr) (values : List Value) : Prop :=
  List.Forall₂ (fun operand value => (operand.evaluate ctx scope).result = .ok value)
    operands values

def callsOf (operands : List Expr) : List Call :=
  operands.flatMap fun operand => (operand.evaluate ctx scope).calls

variable {ctx scope}

theorem evaluateAll_of_give {operands : List Expr} {values : List Value}
    (give : Give ctx scope operands values) :
    evaluateAll ctx scope operands = ⟨.ok values, callsOf ctx scope operands⟩ := by
  induction give with
  | nil => rfl
  | @cons operand value operands values came _ ih =>
    have walked : operand.evaluate ctx scope = ⟨.ok value, (operand.evaluate ctx scope).calls⟩ :=
      Walk.ext came rfl
    rw [evaluateAll, walked, ih]
    exact Walk.ext rfl (by simp [callsOf, bind, Walk.bind, pure, Walk.pure])

theorem evaluate_core {name : String} {core : CoreOperator}
    (named : CoreOperator.ofName? name = some core) {operands : List Expr} {values : List Value}
    (give : Give ctx scope operands values) :
    (call name operands).evaluate ctx scope =
      { Walk.ofAnswer name (core.apply ctx values) with calls := callsOf ctx scope operands } := by
  -- No connective has such a name, so the operands are all evaluated.
  simp only [evaluate, Connective.ofName?_of_core named, evaluateAll_of_give give, named]
  refine Walk.ext rfl ?_
  simp only [bind, Walk.bind, Walk.calls_ofAnswer, List.append_nil]

end Expr

/-! ## Orders of two operands -/

def Comparison.orders : List Comparison := [.lt, .le, .gt, .ge]

variable {comparison : Comparison}

theorem CoreOperator.ofName?_symbol (orders : comparison ∈ Comparison.orders) :
    ofName? comparison.symbol = some (.ordered comparison) := by
  cases comparison with
  | eq => exact absurd orders (by decide)
  | ne => exact absurd orders (by decide)
  | _ => rfl

theorem CoreOperator.order_pair (comparison : Comparison) (a b : Value) :
    order comparison [a, b] = .ok (.bool (Value.compare? comparison a b == some true)) := by
  simp [order, chain]

theorem Expr.evaluate_ordered (orders : comparison ∈ Comparison.orders) {ctx : Context}
    {scope : Scope} {left right : Expr} {a b : Value} (first : left.evaluate ctx scope = pure a)
    (second : right.evaluate ctx scope = pure b) :
    (call comparison.symbol [left, right]).evaluate ctx scope =
      pure (.bool (Value.compare? comparison a b == some true)) := by
  have give : Give ctx scope [left, right] [a, b] :=
    .cons (congrArg Walk.result first) (.cons (congrArg Walk.result second) .nil)
  have quiet : callsOf ctx scope [left, right] = [] := by
    simp [callsOf, first, second, pure, Walk.pure]
  rw [evaluate_core (CoreOperator.ofName?_symbol orders) give, quiet, CoreOperator.apply,
    CoreOperator.order_pair]
  rfl

end Eligibility
