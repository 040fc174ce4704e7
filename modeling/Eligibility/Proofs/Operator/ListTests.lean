import Eligibility.Operator.Domain
import Eligibility.Proofs.Evaluation.Joining
import Eligibility.Proofs.Evaluation.Operands
import Eligibility.Proofs.Evaluation.Resolution

/-!
Tests of all items of a list, and the connectives. The operators over a list get the
values of all its items; a connective stops at the operand that decides. As long as
no operand fails this makes no difference to the answer, the list without items
included, and the count of truthy items says what both of them say.
-/

set_option autoImplicit false

namespace Eligibility

/-! ## Counts -/

namespace Operator

theorem toInt_wordOfCount (count : Nat) :
    (wordOfCount count).toInt = min (count : Int) Int64.maxValue.toInt := by
  have largest : Int64.maxValue.toInt = 0x7FFFFFFFFFFFFFFF := rfl
  unfold wordOfCount
  rw [Int64.toInt_ofNat_of_lt (by omega), largest]
  omega

theorem toInt_wordOfCount_eq_length_iff (test : Value → Bool) (values : List Value) :
    (wordOfCount (values.countP test)).toInt = values.length ↔
      values.all test = true ∧ values.length ≤ Int64.maxValue.toInt := by
  have atMost := List.countP_le_length (p := test) (l := values)
  rw [toInt_wordOfCount, List.all_eq_true, ← List.countP_eq_length]
  omega

theorem one_le_toInt_wordOfCount_iff (test : Value → Bool) (values : List Value) :
    1 ≤ (wordOfCount (values.countP test)).toInt ↔ values.any test = true := by
  have largest : 1 ≤ Int64.maxValue.toInt := by decide
  rw [toInt_wordOfCount, List.any_eq_true, ← List.countP_pos_iff]
  omega

end Operator

namespace Expr

variable {ctx : Context} {scope : Scope} {operands : List Expr} {values : List Value}

/-! ## Registered operators -/

theorem evaluate_registered {name : String} (free : name ∉ coreNames) {operator : Operator}
    (bound : scope.get? name = some operator) (give : Give ctx scope operands values) :
    (call name operands).evaluate ctx scope =
      { Walk.ofAnswer name (operator values) with
        calls := callsOf ctx scope operands ++ [⟨name, values⟩] } := by
  rw [mem_coreNames_iff, not_or, Option.not_isSome_iff_eq_none,
    Option.not_isSome_iff_eq_none] at free
  simp only [evaluate, free.1, free.2, evaluateAll_of_give give, Scope.call, bound]
  rfl

theorem evaluate_list (give : Give ctx scope operands values) :
    (list operands).evaluate ctx scope = ⟨.ok (.list values), callsOf ctx scope operands⟩ := by
  rw [evaluate, evaluateAll_of_give give]
  exact Walk.ext rfl (List.append_nil _)

theorem evaluate_over_list {name : String} (free : name ∉ coreNames) {operator : Operator}
    (bound : scope.get? name = some operator) (give : Give ctx scope operands values) :
    (call name [.list operands]).evaluate ctx scope =
      { Walk.ofAnswer name (operator [.list values]) with
        calls := callsOf ctx scope operands ++ [⟨name, [.list values]⟩] } := by
  have listed := evaluate_list give
  have only : Give ctx scope [.list operands] [.list values] :=
    .cons (congrArg Walk.result listed) .nil
  have calls : callsOf ctx scope [.list operands] = callsOf ctx scope operands := by
    simp only [callsOf, List.flatMap_cons, List.flatMap_nil, List.append_nil, listed]
  rw [evaluate_registered free bound only, calls]

/-! ## Connectives -/

theorem result_untilDecided_of_give {decides : Value → Bool} {start : Value}
    (undecided : decides start = false) (give : Give ctx scope operands values) :
    ∃ last, (untilDecided decides start (operands.map (evaluate ctx scope))).result = .ok last ∧
      decides last = values.any decides := by
  induction give generalizing start with
  | nil => exact ⟨start, rfl, undecided⟩
  | @cons operand value operands values came _ ih =>
    rw [List.map_cons, untilDecided, List.any_cons]
    have walked : operand.evaluate ctx scope = ⟨.ok value, (operand.evaluate ctx scope).calls⟩ :=
      Walk.ext came rfl
    rw [walked]
    cases decided : decides value with
    | true => exact ⟨value, by simp [bind, Walk.bind, pure, Walk.pure, decided], decided⟩
    | false =>
      obtain ⟨last, result, same⟩ := ih decided
      exact ⟨last, by simpa [bind, Walk.bind, decided] using result, same⟩

theorem result_truth_of_loops {connective : String} {decides : Value → Bool} {start : Value}
    (loops : Loops ctx scope connective decides start) (give : Give ctx scope operands values) :
    ∃ last, ((call "!!" [call connective operands]).evaluate ctx scope).result =
      .ok (.bool last.isTruthy) ∧ decides last = values.any decides := by
  obtain ⟨last, result, same⟩ := result_untilDecided_of_give loops.undecided give
  have only : Give ctx scope [call connective operands] [last] :=
    .cons (by rw [loops.evaluates]; exact result) .nil
  have named : CoreOperator.ofName? "!!" = some .truth := rfl
  exact ⟨last, by rw [evaluate_core named only]; rfl, same⟩

theorem result_truth_and (give : Give ctx scope operands values) :
    ((call "!!" [call "and" operands]).evaluate ctx scope).result =
      .ok (.bool (values.all Value.isTruthy)) := by
  obtain ⟨last, result, same⟩ := result_truth_of_loops loops_and give
  rw [result, List.all_eq_not_any_not, ← same, Bool.not_not]

theorem result_truth_or (give : Give ctx scope operands values) :
    ((call "!!" [call "or" operands]).evaluate ctx scope).result =
      .ok (.bool (values.any Value.isTruthy)) := by
  obtain ⟨last, result, same⟩ := result_truth_of_loops loops_or give
  rw [result, same]

end Expr

/-! ## The operators over a list -/

/-- The names of the operators over a list have their shared meaning in the scope. -/
structure Scope.TestsLists (scope : Scope) : Prop where
  all : scope.get? "all_true" = some Operator.allTrue
  any : scope.get? "any_true" = some Operator.anyTrue
  count : scope.get? "count_true" = some Operator.countTrue

theorem Scope.testsLists_withShared (registry : Registry) (overlay : Option Registry)
    (now : Moment)
    (free : ∀ name ∈ ["all_true", "any_true", "count_true"],
      Scope.get? ⟨registry, overlay⟩ name = none) :
    Scope.TestsLists ⟨registry.withShared now, overlay⟩ := by
  have added : ∀ name ∈ ["all_true", "any_true", "count_true"],
      Scope.get? ⟨registry.withShared now, overlay⟩ name =
        Keyed.find? name (Operator.shared now) := by
    intro name listed
    obtain ⟨above, below⟩ := Option.or_eq_none_iff.mp (free name listed)
    rw [Scope.get?, above, Registry.withShared, Registry.get?_registerMissing, below]
    rfl
  exact ⟨added _ (by decide), added _ (by decide), added _ (by decide)⟩

namespace Expr

/-- Over operands that all evaluate the operators on their list answer what the
connectives do, as a boolean: all of them truthy, or any. The count is that of the
truthy ones; it is the length of the list, as long as a word can say that, if and only
if all are truthy, and at least one if any is. -/
theorem list_tests_agree_with_connectives {ctx : Context} {scope : Scope}
    (tests : scope.TestsLists) {operands : List Expr} {values : List Value}
    (give : Give ctx scope operands values) :
    let answer (e : Expr) : Except Failure Value := (e.evaluate ctx scope).result
    let all := answer (call "all_true" [.list operands])
    let any := answer (call "any_true" [.list operands])
    all = answer (call "!!" [call "and" operands]) ∧
    any = answer (call "!!" [call "or" operands]) ∧
    all = .ok (.bool (values.all Value.isTruthy)) ∧
    any = .ok (.bool (values.any Value.isTruthy)) ∧
    ∃ count : Int64,
      answer (call "count_true" [.list operands]) = .ok (.int count) ∧
      count.toInt = min (values.countP Value.isTruthy : Int) Int64.maxValue.toInt ∧
      (count.toInt = operands.length ↔
        all = .ok (.bool true) ∧ operands.length ≤ Int64.maxValue.toInt) ∧
      (1 ≤ count.toInt ↔ any = .ok (.bool true)) := by
  intro answer all any
  have allTruthy : all = .ok (.bool (values.all Value.isTruthy)) :=
    congrArg Walk.result (evaluate_over_list (by decide) tests.all give)
  have anyTruthy : any = .ok (.bool (values.any Value.isTruthy)) :=
    congrArg Walk.result (evaluate_over_list (by decide) tests.any give)
  refine ⟨allTruthy.trans (result_truth_and give).symm,
    anyTruthy.trans (result_truth_or give).symm, allTruthy, anyTruthy,
    Operator.wordOfCount (values.countP Value.isTruthy), ?_, ?_, ?_, ?_⟩
  · exact congrArg Walk.result (evaluate_over_list (by decide) tests.count give)
  · exact Operator.toInt_wordOfCount _
  · rw [allTruthy, List.Forall₂.length_eq give, Operator.toInt_wordOfCount_eq_length_iff]
    simp
  · rw [anyTruthy, Operator.one_le_toInt_wordOfCount_iff]
    simp

/-- Of three answers one is truthy, the text; what was not said and the count of no
items are not. Of no answers all are truthy, and none is. -/
theorem list_tests_agree_with_connectives_of_one_truthy :
    let scope : Scope :=
      ⟨Registry.empty.withShared (.midnight ⟨2026, 6, 16, by decide, by decide⟩), none⟩
    let operands : List Expr :=
      [.literal (.text "no"), read "age", .call "count_true" [.list []]]
    let answer (e : Expr) : Except Failure Value := (e.evaluate .empty scope).result
    scope.TestsLists ∧ Give .empty scope operands [.text "no", .null, .int 0] ∧
    answer (call "all_true" [.list operands]) = .ok (.bool false) ∧
    answer (call "any_true" [.list operands]) = .ok (.bool true) ∧
    answer (call "all_true" [.list []]) = answer (call "!!" [call "and" []]) ∧
    answer (call "any_true" [.list []]) = answer (call "!!" [call "or" []]) ∧
    answer (call "count_true" [.list []]) = .ok (.int 0) := by
  intro scope operands answer
  have tests : scope.TestsLists := Scope.testsLists_withShared _ _ _ (by decide)
  have none_ : Give .empty scope [] [] := .nil
  obtain ⟨allOfNone, anyOfNone, -, -, zero, counted, isZero, -⟩ :=
    list_tests_agree_with_connectives tests none_
  have noItems : answer (call "count_true" [.list []]) = .ok (.int 0) := by
    obtain rfl : zero = 0 := Int64.toInt_inj.mp isZero
    exact counted
  have give : Give .empty scope operands [.text "no", .null, .int 0] :=
    .cons rfl (.cons rfl (.cons noItems .nil))
  obtain ⟨-, -, all, any, -⟩ := list_tests_agree_with_connectives tests give
  exact ⟨tests, give, all, any, allOfNone, anyOfNone, noItems⟩

end Expr

end Eligibility
