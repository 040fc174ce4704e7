import Eligibility.Expr.Build
import Eligibility.Proofs.Evaluation.Operands
import Eligibility.Proofs.Expr.Lookup

/-!
Comparisons with null among their operands. An order holds of no such operands. An
equality takes null for a value like any other: it holds of nulls alone, and its
negation holds as soon as there is anything else.
-/

set_option autoImplicit false

namespace Eligibility

/-! ## Values with null -/

namespace Value

theorem order?_null_left (b : Value) : order? .null b = none := by
  cases b <;> rfl

theorem order?_null_right (a : Value) : order? a .null = none := by
  cases a <;> rfl

def SetsNullApart (equal : Value → Value → Bool) : Prop :=
  ∀ value, equal .null value = value.isNull ∧ equal value .null = value.isNull

theorem looseEq_setsNullApart : SetsNullApart looseEq := by
  intro value
  cases value <;> simp [looseEq, order?, isNull]

theorem strictEq_setsNullApart : SetsNullApart strictEq := by
  intro value
  cases value <;> simp [strictEq, same, isNull]

theorem isNull_eq_true_iff (value : Value) : value.isNull = true ↔ value = .null := by
  cases value <;> simp [isNull]

end Value

namespace CoreOperator

variable {values : List Value}

theorem chain_of_null (comparison : Comparison) (member : Value.null ∈ values)
    (several : 2 ≤ values.length) : chain comparison values = false := by
  induction values with
  | nil => cases member
  | cons a rest ih =>
    cases rest with
    | nil => exact absurd several (by simp)
    | cons b rest =>
      rw [chain, Bool.and_eq_false_iff]
      rcases List.mem_cons.mp member with rfl | later
      · left
        simp [Value.compare?, Value.order?_null_left]
      · -- Of two values the second is null; of more, the rest is a chain with null.
        cases rest with
        | nil =>
          obtain rfl := List.mem_singleton.mp later
          left
          simp [Value.compare?, Value.order?_null_right]
        | cons c rest => exact .inr (ih later (by simp))

theorem binary_of_null {equal : Value → Value → Bool} (apart : Value.SetsNullApart equal)
    (answer : Bool → Bool) (member : Value.null ∈ values) (two : values.length = 2) :
    binary (fun a b => answer (equal a b)) values =
      .ok (.bool (answer (values.all Value.isNull))) := by
  obtain ⟨a, b, rfl⟩ := List.length_eq_two.mp two
  simp only [List.mem_cons, List.not_mem_nil, or_false] at member
  rcases member with rfl | rfl
  · simp [binary, (apart b).1, Value.isNull]
  · simp [binary, (apart a).2, Value.isNull]

end CoreOperator

/-! ## Comparisons with null -/

def comparisonNames : List String := ["==", "!=", "===", "!==", "<", "<=", ">", ">="]

def rangeNames : List String := ["<", "<="]

def Accepts (name : String) (count : Nat) : Prop := count = 2 ∨ name ∈ rangeNames ∧ count = 3

/-- What a comparison answers where there is a null among the values. -/
def answerWithNull (name : String) (values : List Value) : Bool :=
  match name with
  | "==" | "===" => values.all Value.isNull
  | "!=" | "!==" => !values.all Value.isNull
  | _ => false

/-- The operator answers so to values with a null among them, if there are as many
as the comparison accepts, and refuses any other number of values. -/
def AnswersNull (name : String) (operator : List Value → CoreOperator.Answer) : Prop :=
  ∀ values,
    (Accepts name values.length → Value.null ∈ values →
      operator values = .ok (.bool (answerWithNull name values))) ∧
    (¬ Accepts name values.length → operator values = .error (.arity "2" values.length))

namespace CoreOperator

theorem binary_answersNull {name : String} {equal : Value → Value → Bool} (answer : Bool → Bool)
    (apart : Value.SetsNullApart equal) (pairs : name ∉ rangeNames)
    (told : ∀ values, answerWithNull name values = answer (values.all Value.isNull)) :
    AnswersNull name (binary fun a b => answer (equal a b)) := by
  intro values
  have two : Accepts name values.length ↔ values.length = 2 := by simp [Accepts, pairs]
  rw [two, told]
  refine ⟨fun accepted member => binary_of_null apart answer member accepted, fun refused => ?_⟩
  unfold binary
  split
  · exact absurd rfl refused
  · rfl

theorem order_answersNull {name : String} {comparison : Comparison}
    (ranges : name ∈ rangeNames ↔ comparison = .lt ∨ comparison = .le)
    (told : ∀ values, answerWithNull name values = false) :
    AnswersNull name (order comparison) := by
  intro values
  have accepts : Accepts name values.length ↔
      values.length = 2 ∨ (comparison = .lt ∨ comparison = .le) ∧ values.length = 3 := by
    rw [Accepts, ranges]
  simp only [order, told]
  constructor
  · intro accepted member
    have several : 2 ≤ values.length := by rcases accepted with two | ⟨-, three⟩ <;> omega
    rw [chain_of_null comparison member several, if_pos (by simpa using accepts.mp accepted)]
  · intro refused
    rw [if_neg (by simpa using mt accepts.mpr refused)]

end CoreOperator

theorem exists_core_of_comparison {name : String} (named : name ∈ comparisonNames) :
    ∃ core, CoreOperator.ofName? name = some core ∧
      ∀ ctx, AnswersNull name fun values => core.apply ctx values := by
  simp only [comparisonNames, List.mem_cons, List.not_mem_nil, or_false] at named
  rcases named with rfl | rfl | rfl | rfl | rfl | rfl | rfl | rfl
  · exact ⟨.looseEq, rfl, fun _ =>
      CoreOperator.binary_answersNull id Value.looseEq_setsNullApart (by decide) fun _ => rfl⟩
  · exact ⟨.looseNe, rfl, fun _ =>
      CoreOperator.binary_answersNull not Value.looseEq_setsNullApart (by decide) fun _ => rfl⟩
  · exact ⟨.strictEq, rfl, fun _ =>
      CoreOperator.binary_answersNull id Value.strictEq_setsNullApart (by decide) fun _ => rfl⟩
  · exact ⟨.strictNe, rfl, fun _ =>
      CoreOperator.binary_answersNull not Value.strictEq_setsNullApart (by decide) fun _ => rfl⟩
  · exact ⟨.ordered .lt, rfl, fun _ => CoreOperator.order_answersNull (by decide) fun _ => rfl⟩
  · exact ⟨.ordered .le, rfl, fun _ => CoreOperator.order_answersNull (by decide) fun _ => rfl⟩
  · exact ⟨.ordered .gt, rfl, fun _ => CoreOperator.order_answersNull (by decide) fun _ => rfl⟩
  · exact ⟨.ordered .ge, rfl, fun _ => CoreOperator.order_answersNull (by decide) fun _ => rfl⟩

theorem answerWithNull_eq_false_iff (name : String) (values : List Value) :
    answerWithNull name values = false ↔
      (name ∈ ["==", "==="] → ∃ value ∈ values, value ≠ .null) ∧
      (name ∈ ["!=", "!=="] → ∀ value ∈ values, value = .null) := by
  have all : values.all Value.isNull = true ↔ ∀ value ∈ values, value = .null := by
    simp [Value.isNull_eq_true_iff]
  have other : values.all Value.isNull = false ↔ ∃ value ∈ values, value ≠ .null := by
    rw [← Bool.not_eq_true, all]
    simp
  unfold answerWithNull
  split
  case h_1 => simp [other]
  case h_2 => simp [other]
  case h_3 => simp [← all]
  case h_4 => simp [← all]
  case h_5 => simp_all

namespace Expr

/-- A comparison of operands with a null among them gives a boolean, which is false
but for two cases: an equality of nulls alone, and an inequality of null and anything
else. So a read without an answer passes an inequality. -/
theorem comparison_with_null {name : String} (named : name ∈ comparisonNames) {ctx : Context}
    {scope : Scope} {operands : List Expr} {values : List Value}
    (give : Give ctx scope operands values) (member : Value.null ∈ values) :
    (Accepts name values.length →
      (call name operands).evaluate ctx scope =
        ⟨.ok (.bool (answerWithNull name values)), callsOf ctx scope operands⟩) ∧
    (¬ Accepts name values.length →
      (call name operands).evaluate ctx scope =
        ⟨.error (.operator name (.arity "2" values.length)), callsOf ctx scope operands⟩) ∧
    (answerWithNull name values = false ↔
      (name ∈ ["==", "==="] → ∃ value ∈ values, value ≠ .null) ∧
      (name ∈ ["!=", "!=="] → ∀ value ∈ values, value = .null)) ∧
    ∀ path, ctx.answer path = .null → (read path).evaluate ctx scope = pure .null := by
  obtain ⟨core, is, answers⟩ := exists_core_of_comparison named
  refine ⟨fun accepted => ?_, fun refused => ?_, answerWithNull_eq_false_iff name values, ?_⟩
  · have answer : core.apply ctx values = .ok (.bool (answerWithNull name values)) :=
      (answers ctx values).1 accepted member
    rw [evaluate_core is give, answer]
    rfl
  · have refusal : core.apply ctx values = .error (.arity "2" values.length) :=
      (answers ctx values).2 refused
    rw [evaluate_core is give, refusal]
    rfl
  · intro path nothing
    exact congrArg pure nothing

/-- Nobody has said what they work as, and an operator says what they do not: the
inequality holds, the equality does not, and neither takes a third operand. -/
theorem comparison_with_null_of_unsaid_job :
    let scope : Scope := ⟨Registry.empty.register "job" fun _ => .ok (.text "clerk"), none⟩
    let operands : List Expr := [read "employmentStatus", .call "job" []]
    let values : List Value := [.null, .text "clerk"]
    Give .empty scope operands values ∧ Value.null ∈ values ∧
    "!=" ∈ comparisonNames ∧ Accepts "!=" values.length ∧
    (call "!=" operands).evaluate .empty scope = ⟨.ok (.bool true), [⟨"job", []⟩]⟩ ∧
    (call "==" operands).evaluate .empty scope = ⟨.ok (.bool false), [⟨"job", []⟩]⟩ ∧
    ((call "<=" (operands ++ [.literal .null])).evaluate .empty scope).result =
      .ok (.bool false) ∧
    ((call ">=" (operands ++ [.literal .null])).evaluate .empty scope).result =
      .error (.operator ">=" (.arity "2" 3)) := by
  intro scope operands values
  have give : Give .empty scope operands values := .cons rfl (.cons rfl .nil)
  have member : Value.null ∈ values := List.mem_cons_self
  have longer : Give .empty scope (operands ++ [.literal .null]) (values ++ [.null]) :=
    .cons rfl (.cons rfl (.cons rfl .nil))
  refine ⟨give, member, by decide, .inl rfl, ?_, ?_, ?_, ?_⟩
  · exact (comparison_with_null (by decide) give member).1 (.inl rfl)
  · exact (comparison_with_null (by decide) give member).1 (.inl rfl)
  · have named : "<=" ∈ comparisonNames := by decide
    rw [(comparison_with_null named longer (by simp)).1 (.inr ⟨by decide, rfl⟩)]
    rfl
  · have named : ">=" ∈ comparisonNames := by decide
    rw [(comparison_with_null named longer (by simp)).2.1 (by simp [Accepts, rangeNames, values])]
    rfl

/-- Of someone who has not said what they work as, an inequality says that they are
not employed. -/
theorem comparison_with_null_may_hold :
    ¬ ∀ name ∈ comparisonNames, ∀ (ctx : Context) (scope : Scope) (operands : List Expr)
      (values : List Value), Give ctx scope operands values → Accepts name values.length →
        Value.null ∈ values →
          ((call name operands).evaluate ctx scope).result = .ok (.bool false) := by
  intro never
  have give : Give .empty bare [read "employmentStatus", .literal (.text "employed")]
      [.null, .text "employed"] := .cons rfl (.cons rfl .nil)
  have result := never "!=" (by decide) .empty bare _ _ give (.inl rfl) List.mem_cons_self
  have held : Except.ok (Value.bool true) = (.ok (.bool false) : Except Failure Value) := result
  cases held

end Expr

end Eligibility
