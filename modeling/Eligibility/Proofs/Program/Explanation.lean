import Eligibility.Proofs.Evaluation.Guard
import Eligibility.Proofs.Evaluation.Operands
import Eligibility.Proofs.Expr.Lookup
import Eligibility.Proofs.Program.Accounting
import Eligibility.Proofs.Value.Order

/-!
The figures of a rule that holds a field against a limit. They show the answer on the
left, also where the rule has the limit there; and the rule holds of an answer exactly
if the comparison that is shown does.
-/

set_option autoImplicit false

namespace Eligibility

theorem Expr.evaluate_var_answered {ctx : Context} {path : String} {x : Value}
    (answered : ctx.get? path = some x) (known : x.isNull = false) (scope : Scope)
    (fallback : Option Expr) : (Expr.var path fallback).evaluate ctx scope = pure x := by
  have answer : ctx.answer path = x := by rw [Context.answer, answered]; rfl
  cases fallback with
  | none => exact congrArg pure answer
  | some other => rw [evaluate_var, answer, known]; rfl

/-! ## Limits -/

/-- A field and a limit in order, either of which may come first. The fallback is for
a field without an answer. -/
structure LimitTest where
  path : String
  fallback : Option Expr
  comparison : Comparison
  orders : comparison ∈ Comparison.orders
  bound : Value
  limitFirst : Bool

namespace LimitTest

variable (test : LimitTest)

def operands : List Expr :=
  if test.limitFirst then [.literal test.bound, .var test.path test.fallback]
  else [.var test.path test.fallback, .literal test.bound]

def toExpr : Expr := .call test.comparison.symbol test.operands

def shown : Comparison := if test.limitFirst then test.comparison.flip else test.comparison

theorem ofCall?_operands :
    Threshold.ofCall? test.path test.comparison.symbol test.operands =
      some (.limit test.shown test.bound) := by
  obtain ⟨path, fallback, comparison, orders, bound, limitFirst⟩ := test
  cases limitFirst with
  | true => simp [operands, shown, Threshold.ofCall?, Threshold.isRead, Comparison.ofSymbol?_symbol]
  | false =>
    -- No comparison is called `in`, which takes a list for the values that it accepts.
    cases comparison <;> simp [operands, shown, Threshold.ofCall?, Threshold.isRead,
      Comparison.symbol, Comparison.ofSymbol?]

theorem find?_toExpr :
    Threshold.find? test.path test.toExpr = some (.limit test.shown test.bound) := by
  rw [toExpr, Threshold.find?, ofCall?_operands, Option.some_or]

theorem evaluate_toExpr {ctx : Context} {x : Value} (answered : ctx.get? test.path = some x)
    (known : x.isNull = false) (scope : Scope) :
    test.toExpr.evaluate ctx scope =
      pure (.bool (Value.compare? test.shown x test.bound == some true)) := by
  have read := Expr.evaluate_var_answered answered known scope test.fallback
  obtain ⟨path, fallback, comparison, orders, bound, limitFirst⟩ := test
  cases limitFirst with
  | false => exact Expr.evaluate_ordered orders read rfl
  | true =>
    have turned : Value.compare? comparison.flip x bound = Value.compare? comparison bound x :=
      Value.compare?_flip comparison bound x
    simp only [shown, if_true, turned]
    exact Expr.evaluate_ordered orders rfl read

end LimitTest

/-! ## Rules -/

namespace Calculation

/-- The figures of a rule on a limit show the answer and the limit, and between them
the comparison by which the rule is decided: it comes to whether the answer compares
so, wherever it is evaluated at all. -/
theorem agrees_with_verdict {rule : Rule} {subject : Subject} {test : LimitTest}
    (about : Subject.ofRuleId? rule.id = some subject) (path : test.path = subject.field.key)
    (asks : rule.expression = test.toExpr) {ctx : Context} {x : Value}
    (answered : ctx.get? subject.field.key = some x) (known : x.isNull = false) :
    ofRule? rule ctx = some
      { label := subject.label
        value := x
        comparison :=
          subject.render x ++ " " ++ symbol test.shown ++ " " ++ subject.render test.bound } ∧
    (∀ scope, rule.expression.evaluate ctx scope =
      pure (.bool (Value.compare? test.shown x test.bound == some true))) ∧
    ∀ setting : Tally.Setting, rule.expression.depth ≤ setting.options.maxDepth →
      setting.result rule ctx =
        .ok (.bool (Value.compare? test.shown x test.bound == some true)) := by
  -- The figures look for the field of the subject, the rule for the path that it reads.
  rw [← path] at answered
  have evaluated := test.evaluate_toExpr answered known
  rw [← asks] at evaluated
  refine ⟨?_, evaluated, fun setting shallow => ?_⟩
  · simp only [ofRule?, about, Option.map_some, ← path, answered, Option.getD_some, known,
      Bool.false_eq_true, if_false, asks, test.find?_toExpr, comparisonText]
  · rw [Tally.Setting.result_eq_evaluate, if_pos shallow, evaluated]
    rfl

/-- A limit of 2500 stands first, and the fallback would fail. An income of 1800 is
shown to be at most the limit, and the rule passes. -/
theorem agrees_with_verdict_of_limit_first :
    let test : LimitTest := ⟨"householdIncome", some Expr.probe, .ge, by decide, .int 2500, true⟩
    let rule := Rule.ofExpr "snap-gross-income" "snap" test.toExpr
    let ctx := Context.empty.insert "householdIncome" (.int 1800)
    let setting : Tally.Setting := ⟨⟨.empty⟩, .explicitOnly, .standard⟩
    Subject.ofRuleId? rule.id = some .income ∧ test.path = Subject.income.field.key ∧
    ctx.get? "householdIncome" = some (.int 1800) ∧ Value.isNull (.int 1800) = false ∧
    rule.expression.depth ≤ setting.options.maxDepth ∧
    (ofRule? rule ctx).map (·.comparison) = some "$1,800.00 ≤ $2,500.00" ∧
    rule.expression.evaluate ctx Expr.bare = pure (.bool true) ∧
    setting.result rule ctx = .ok (.bool true) := by
  intro test rule ctx setting
  have about : Subject.ofRuleId? rule.id = some .income := by decide +kernel
  have path : test.path = Subject.income.field.key := rfl
  have answered : ctx.get? "householdIncome" = some (.int 1800) := rfl
  have known : Value.isNull (.int 1800) = false := rfl
  have shallow : rule.expression.depth ≤ setting.options.maxDepth := by decide
  have holds : Value.compare? test.shown (.int 1800) test.bound = some true := by decide
  obtain ⟨shown, evaluated, passed⟩ := agrees_with_verdict about path rfl answered known
  refine ⟨about, path, answered, known, shallow, ?_, ?_, ?_⟩
  · rw [shown]
    decide +kernel
  · rw [evaluated, holds]
    rfl
  · rw [passed setting shallow, holds]
    rfl

end Calculation

end Eligibility
