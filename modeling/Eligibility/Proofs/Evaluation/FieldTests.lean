import Mathlib.Data.List.Induction
import Eligibility.Proofs.Evaluation.Joining
import Eligibility.Proofs.Evaluation.Operands
import Eligibility.Proofs.Expr.Lookup
import Eligibility.Proofs.Value.Equality

/-!
Tests of a field that stand for several comparisons. Being one of a list of values
is being equal to one of them, and lying within bounds is keeping to both. The
operators of such tests take the field on the other side than the comparisons do,
and nothing depends on it. A field without an answer is one of nothing, not even of
a list that has null in it.
-/

set_option autoImplicit false

namespace Eligibility

/-! ## Chains of tests -/

namespace Expr

variable {ctx : Context} {scope : Scope}

theorem Loops.evaluate_foldl_join {connective : String} {decides : Value → Bool} {start : Value}
    (loops : Loops ctx scope connective decides start) (first : Expr) (rest : List Expr) :
    (rest.foldl (join connective) first).evaluate ctx scope =
      (call connective (first :: rest)).evaluate ctx scope := by
  -- The last operand was joined to all that came before, so it is taken off first.
  induction rest using List.reverseRecOn with
  | nil =>
    rw [loops.evaluates]
    exact (untilDecided_singleton start (first.evaluate ctx scope)).symm
  | append_singleton rest last ih =>
    rw [List.foldl_append, List.foldl_cons, List.foldl_nil, loops.evaluate_join,
      loops.evaluate_pair, ih, loops.evaluates, loops.evaluates, ← List.cons_append,
      List.map_append]
    exact (untilDecided_concat loops.undecided _ _).symm

theorem untilDecided_tests (test : Value → Bool) (values : List Value) :
    untilDecided Value.isTruthy (.bool false)
      (values.map fun value => (pure (.bool (test value)) : Walk Value)) =
        pure (.bool (values.any test)) := by
  induction values with
  | nil => rfl
  | cons value rest ih =>
    rw [List.map_cons, untilDecided, pure_bind, List.any_cons]
    cases test value with
    | true => rfl
    | false => exact ih

theorem unlessDecided_tests (first second : Bool) :
    unlessDecided (fun value => !value.isTruthy)
      (pure (.bool first) : Walk Value) (pure (.bool second)) = pure (.bool (first && second)) := by
  rw [unlessDecided, pure_bind]
  cases first <;> rfl

end Expr

theorem CoreOperator.isMember_list {needle : Value} (notNull : needle ≠ .null)
    (items : List Value) : isMember needle (.list items) = items.any needle.looseEq := by
  have turned : (fun item : Value => item.looseEq needle) = needle.looseEq := by
    funext item
    exact Value.looseEq_comm item needle
  -- Null is an item of nothing, by a case of its own; there the two would differ.
  cases needle with
  | null => exact absurd rfl notNull
  | _ => exact congrArg items.any turned

/-! ## Tests of a field -/

namespace Field

variable (field : Field) (ctx : Context) (scope : Scope)

theorem evaluate_oneOf (values : List Value) :
    (field.oneOf values).evaluate ctx scope =
      pure (.bool (CoreOperator.isMember (ctx.answer field.path) (.list values))) := rfl

theorem evaluate_any_is (values : List Value) :
    (Expr.call "or" (values.map (field.is .eq))).evaluate ctx scope =
      pure (.bool (values.any (ctx.answer field.path).looseEq)) := by
  rw [Expr.loops_or.evaluates, List.map_map]
  exact Expr.untilDecided_tests _ values

theorem evaluate_is {comparison : Comparison} (orders : comparison ∈ Comparison.orders)
    (bound : Value) :
    (field.is comparison bound).evaluate ctx scope =
      pure (.bool (Value.compare? comparison (ctx.answer field.path) bound == some true)) :=
  Expr.evaluate_ordered orders rfl rfl

theorem evaluate_between (low high : Value) :
    (field.between low high).evaluate ctx scope =
      pure (.bool (Value.compare? .le low (ctx.answer field.path) == some true &&
        Value.compare? .le (ctx.answer field.path) high == some true)) := by
  have chained : (field.between low high).evaluate ctx scope =
      pure (.bool (CoreOperator.chain .le [low, ctx.answer field.path, high])) := rfl
  rw [chained]
  simp only [CoreOperator.chain, Bool.and_true]

/-- A field with an answer is one of the values exactly if it equals one of them,
whether the equalities are operands of one call or a chain built up one by one. With
no answer it is one of nothing. -/
theorem oneOf_agrees_with_equalities (values : List Value) :
    (ctx.answer field.path ≠ .null →
      (field.oneOf values).evaluate ctx scope =
        (Expr.call "or" (values.map (field.is .eq))).evaluate ctx scope ∧
      (field.oneOf values).evaluate ctx scope =
        pure (.bool (values.any (ctx.answer field.path).looseEq)) ∧
      ∀ first rest, values = first :: rest →
        (field.oneOf values).evaluate ctx scope =
          ((rest.map (field.is .eq)).foldl Expr.or (field.is .eq first)).evaluate ctx scope) ∧
    (ctx.answer field.path = .null →
      (field.oneOf values).evaluate ctx scope = pure (.bool false)) := by
  constructor
  · intro answered
    have tested : (field.oneOf values).evaluate ctx scope =
        pure (.bool (values.any (ctx.answer field.path).looseEq)) := by
      rw [evaluate_oneOf, CoreOperator.isMember_list answered]
    have joined : (field.oneOf values).evaluate ctx scope =
        (Expr.call "or" (values.map (field.is .eq))).evaluate ctx scope :=
      tested.trans (field.evaluate_any_is ctx scope values).symm
    refine ⟨joined, tested, ?_⟩
    rintro first rest rfl
    rw [joined]
    exact (Expr.loops_or.evaluate_foldl_join _ _).symm
  · intro unanswered
    rw [evaluate_oneOf, unanswered]
    rfl

/-- The rooms are two numbers, one of them spelled out. They are one of the values
since they equal the list that is written otherwise; no answer at all is none of them,
though null is among them. -/
theorem oneOf_agrees_with_equalities_of_two_rooms :
    let rooms : Field := ⟨"rooms"⟩
    let ctx := Context.empty.insert "rooms" (.list [.int 2, .text " 1 "])
    let other : Value := .list [.text "2.0", .float 1]
    ctx.answer "rooms" ≠ .null ∧
    (rooms.oneOf [.null, other]).evaluate ctx Expr.bare = pure (.bool true) ∧
    ((rooms.is .eq .null).or (rooms.is .eq other)).evaluate ctx Expr.bare = pure (.bool true) ∧
    Context.empty.answer "rooms" = .null ∧
    (rooms.oneOf [.null, other]).evaluate .empty Expr.bare = pure (.bool false) := by
  intro rooms ctx other
  have answer : ctx.answer "rooms" = .list [.int 2, .text " 1 "] := by
    rw [Context.answer_insert_list, if_pos rfl]
  have answered : ctx.answer rooms.path ≠ .null := by rw [answer]; nofun
  have unanswered : Context.empty.answer "rooms" = .null := rfl
  have equal : [.null, other].any (ctx.answer rooms.path).looseEq = true := by
    rw [answer]
    decide +kernel
  obtain ⟨-, tested, chained⟩ :=
    (rooms.oneOf_agrees_with_equalities ctx Expr.bare [.null, other]).1 answered
  rw [equal] at tested
  refine ⟨answered, tested, (chained _ _ rfl).symm.trans tested, unanswered, ?_⟩
  exact (rooms.oneOf_agrees_with_equalities .empty Expr.bare [.null, other]).2 unanswered

/-- A range is its two bounds, and comes to the same answer: it holds if the field
compares with both bounds and keeps to them, whatever the three values are. -/
theorem between_evaluates_as_bounds (low high : Value) :
    (field.between low high).evaluate ctx scope =
      ((field.is .ge low).and (field.is .le high)).evaluate ctx scope ∧
    (field.between low high).evaluate ctx scope =
      pure (.bool (Value.compare? .ge (ctx.answer field.path) low == some true &&
        Value.compare? .le (ctx.answer field.path) high == some true)) := by
  -- The range has its lower bound on the left of the field.
  have turned : Value.compare? .le low (ctx.answer field.path) =
      Value.compare? .ge (ctx.answer field.path) low :=
    Value.compare?_flip .ge (ctx.answer field.path) low
  have tested := field.evaluate_between ctx scope low high
  rw [turned] at tested
  refine ⟨?_, tested⟩
  rw [tested, Expr.and, Expr.loops_and.evaluate_join, Expr.loops_and.evaluate_pair,
    field.evaluate_is ctx scope (by decide), field.evaluate_is ctx scope (by decide)]
  exact (Expr.unlessDecided_tests _ _).symm

end Field

end Eligibility
