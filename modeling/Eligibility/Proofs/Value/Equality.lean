import Mathlib.Data.List.Forall2
import Eligibility.Proofs.Value.Order

/-!
The three equalities of values. Each goes through lists item by item and leaves
anything else to a test of its own. One test implies the next, so one equality
implies the next, however deep the lists; and what is taken from doubles is that
their equality is symmetric, and reflexive but for NaN.
-/

set_option autoImplicit false

namespace Eligibility

namespace Value

/-! ## Items -/

def items : Value → List Value
  | .list items => items
  | _ => []

theorem sizeOf_lt_of_mem_items {value item : Value} (member : item ∈ value.items) :
    sizeOf item < sizeOf value := by
  cases value with
  | list items =>
    have inside : sizeOf item < sizeOf items := List.sizeOf_lt_of_mem member
    simp only [list.sizeOf_spec]
    omega
  | _ => cases member

@[elab_as_elim]
theorem itemInduction {motive : Value → Prop}
    (step : ∀ value, (∀ item ∈ value.items, motive item) → motive value) (value : Value) :
    motive value :=
  step value fun item _member => itemInduction step item
termination_by sizeOf value
decreasing_by exact sizeOf_lt_of_mem_items _member

def areLists : Value → Value → Bool
  | .list _, .list _ => true
  | _, _ => false

theorem areLists_comm (a b : Value) : areLists b a = areLists a b := by
  cases a <;> cases b <;> rfl

theorem exists_lists {a b : Value} (lists : areLists a b = true) :
    ∃ as bs, a = .list as ∧ b = .list bs := by
  unfold areLists at lists
  split at lists
  · exact ⟨_, _, rfl, rfl⟩
  · cases lists

mutual

def hasNaN : Value → Bool
  | .float x => Number.isNaN x
  | .list items => anyHasNaN items
  | _ => false

def anyHasNaN : List Value → Bool
  | [] => false
  | item :: rest => hasNaN item || anyHasNaN rest

end

theorem hasNaN_of_mem_items {value item : Value} (free : value.hasNaN = false)
    (member : item ∈ value.items) : item.hasNaN = false := by
  cases value with
  | list items =>
    change item ∈ items at member
    change anyHasNaN items = false at free
    induction items with
    | nil => cases member
    | cons first rest ih =>
      rw [anyHasNaN, Bool.or_eq_false_iff] at free
      rcases List.mem_cons.mp member with rfl | later
      · exact free.1
      · exact ih later free.2
  | _ => cases member

/-! ## Equalities that go item by item -/

mutual

def itemwise (test : Value → Value → Bool) : Value → Value → Bool
  | .list as, .list bs => itemwiseAll test as bs
  | a, b => test a b

def itemwiseAll (test : Value → Value → Bool) : List Value → List Value → Bool
  | [], [] => true
  | a :: as, b :: bs => itemwise test a b && itemwiseAll test as bs
  | _, _ => false

end

/-- The equality goes through lists item by item and leaves anything else to the
test. -/
structure GoesItemwise (equal test : Value → Value → Bool) : Prop where
  lists : ∀ as bs, equal (.list as) (.list bs) = true ↔
    List.Forall₂ (fun a b => equal a b = true) as bs
  others : ∀ a b, areLists a b = false → equal a b = test a b

theorem eq_true_iff_forall₂ {equal : Value → Value → Bool} {all : List Value → List Value → Bool}
    (nil : all [] [] = true)
    (cons : ∀ a as b bs, all (a :: as) (b :: bs) = (equal a b && all as bs))
    (longer : ∀ a as, all (a :: as) [] = false) (shorter : ∀ b bs, all [] (b :: bs) = false)
    (as bs : List Value) :
    all as bs = true ↔ List.Forall₂ (fun a b => equal a b = true) as bs := by
  induction as generalizing bs with
  | nil =>
    cases bs with
    | nil => simp [nil]
    | cons b bs => simp [shorter]
  | cons a as ih =>
    cases bs with
    | nil => simp [longer]
    | cons b bs => simp [cons, ih]

theorem itemwise_goesItemwise (test : Value → Value → Bool) :
    GoesItemwise (itemwise test) test where
  lists as bs := by
    rw [itemwise]
    apply eq_true_iff_forall₂ <;> intros <;> simp only [itemwiseAll]
  others a b open_ := by
    revert open_
    cases a <;> cases b <;> simp [areLists, itemwise]

section
variable {first second equal test testFirst testSecond : Value → Value → Bool}

theorem GoesItemwise.mono (goesFirst : GoesItemwise first testFirst)
    (goesSecond : GoesItemwise second testSecond)
    (implies : ∀ a b, testFirst a b = true → testSecond a b = true) {a b : Value}
    (equal : first a b = true) : second a b = true := by
  induction a using itemInduction generalizing b with
  | step a ih =>
    cases lists : areLists a b with
    | false =>
      rw [goesFirst.others a b lists] at equal
      rw [goesSecond.others a b lists]
      exact implies a b equal
    | true =>
      obtain ⟨as, bs, rfl, rfl⟩ := exists_lists lists
      rw [goesFirst.lists, List.forall₂_iff_get] at equal
      rw [goesSecond.lists, List.forall₂_iff_get]
      exact ⟨equal.1, fun i _ _ => ih _ (List.get_mem as _) (equal.2 i _ _)⟩

theorem GoesItemwise.symm (goes : GoesItemwise equal test)
    (symm : ∀ a b, test a b = true → test b a = true) {a b : Value}
    (same : equal a b = true) : equal b a = true := by
  induction a using itemInduction generalizing b with
  | step a ih =>
    cases lists : areLists a b with
    | false =>
      rw [goes.others a b lists] at same
      rw [goes.others b a ((areLists_comm a b).trans lists)]
      exact symm a b same
    | true =>
      obtain ⟨as, bs, rfl, rfl⟩ := exists_lists lists
      rw [goes.lists, List.forall₂_iff_get] at same ⊢
      exact ⟨same.1.symm, fun i _ _ => ih _ (List.get_mem as _) (same.2 i _ _)⟩

theorem GoesItemwise.comm (goes : GoesItemwise equal test)
    (symm : ∀ a b, test a b = true → test b a = true) (a b : Value) : equal a b = equal b a :=
  Bool.eq_iff_iff.mpr ⟨goes.symm symm, goes.symm symm⟩

theorem GoesItemwise.refl (goes : GoesItemwise equal test)
    (refl : ∀ a, areLists a a = false → a.hasNaN = false → test a a = true) {a : Value}
    (free : a.hasNaN = false) : equal a a = true := by
  induction a using itemInduction with
  | step a ih =>
    cases lists : areLists a a with
    | false =>
      rw [goes.others a a lists]
      exact refl a lists free
    | true =>
      obtain ⟨as, _, rfl, _⟩ := exists_lists lists
      rw [goes.lists, List.forall₂_same]
      exact fun item member => ih item member (hasNaN_of_mem_items free member)

end

end Value

/-! ## The tests -/

namespace Arithmetic

variable (arithmetic : Arithmetic)

def equal (x y : Float) : Bool := arithmetic.order? x y == some .eq

/-- Two doubles are equal the other way round too, and one is equal to itself
unless it is NaN. -/
structure Equates : Prop where
  symm : ∀ {x y}, arithmetic.equal x y = true → arithmetic.equal y x = true
  refl : ∀ {x}, Number.isNaN x = false → arithmetic.equal x x = true

def sameTest : Value → Value → Bool
  | .null, .null => true
  | .bool a, .bool b => a == b
  | .int a, .int b => a == b
  | .float a, .float b => arithmetic.equal a b
  | .text a, .text b => a == b
  | _, _ => false

def strictTest : Value → Value → Bool
  | .int a, .float b => arithmetic.equal (arithmetic.ofWord a) b
  | .float a, .int b => arithmetic.equal a (arithmetic.ofWord b)
  | a, b => arithmetic.sameTest a b

def looseTest : Value → Value → Bool
  | .null, .null => true
  | a, b => arithmetic.valueOrder? a b == some .eq

def same : Value → Value → Bool := Value.itemwise arithmetic.sameTest

def strictEq : Value → Value → Bool := Value.itemwise arithmetic.strictTest

def looseEq : Value → Value → Bool := Value.itemwise arithmetic.looseTest

variable {arithmetic} {a b : Value}

theorem strictTest_of_sameTest (same : arithmetic.sameTest a b = true) :
    arithmetic.strictTest a b = true := by
  unfold strictTest
  split
  · cases same
  · cases same
  · exact same

theorem order?_eq_some_eq_iff (exactly : ordersExactly a b = true) :
    Value.order? a b = some .eq ↔ arithmetic.sameTest a b = true := by
  unfold ordersExactly at exactly
  split at exactly
  case h_1 => simp [Value.order?, sameTest, Int64.toInt_inj]
  case h_2 => simp [Value.order?, sameTest]
  case h_3 s t =>
    have text : compareOfLessAndEq s t = .eq ↔ s = t := by
      change compare s t = .eq ↔ s = t
      exact Std.compare_eq_iff_eq
    simp [Value.order?, sameTest, text]
  case h_4 => cases exactly

theorem looseTest_of_sameTest (same : arithmetic.sameTest a b = true) :
    arithmetic.looseTest a b = true := by
  cases exactly : ordersExactly a b with
  | true =>
    have equal := (order?_eq_some_eq_iff exactly).mpr same
    unfold looseTest
    split
    · rfl
    · simp [valueOrder?, exactly, equal]
  | false =>
    -- What is left is null with null, and two doubles.
    unfold sameTest at same
    split at same
    case h_1 => rfl
    case h_4 => exact same
    case h_6 => cases same
    all_goals cases exactly

theorem looseTest_of_strictTest (strict : arithmetic.strictTest a b = true) :
    arithmetic.looseTest a b = true := by
  unfold strictTest at strict
  split at strict
  case h_1 => exact strict
  case h_2 => exact strict
  case h_3 => exact looseTest_of_sameTest strict

theorem Equates.sameTest_symm (equates : arithmetic.Equates)
    (same : arithmetic.sameTest a b = true) : arithmetic.sameTest b a = true := by
  unfold sameTest at same
  split at same
  case h_1 => rfl
  case h_4 => exact equates.symm same
  case h_6 => cases same
  all_goals
    obtain rfl := beq_iff_eq.mp same
    exact beq_self_eq_true _

theorem Equates.strictTest_symm (equates : arithmetic.Equates)
    (strict : arithmetic.strictTest a b = true) : arithmetic.strictTest b a = true := by
  unfold strictTest at strict
  split at strict
  case h_1 => exact equates.symm strict
  case h_2 => exact equates.symm strict
  case h_3 => exact strictTest_of_sameTest (equates.sameTest_symm strict)

theorem Equates.numericOrder?_symm (equates : arithmetic.Equates)
    (equal : arithmetic.numericOrder? a b = some .eq) :
    arithmetic.numericOrder? b a = some .eq := by
  simp only [numericOrder?, Option.bind_eq_bind, Option.bind_eq_some_iff] at equal ⊢
  obtain ⟨x, readFirst, y, readSecond, equal⟩ := equal
  exact ⟨y, readSecond, x, readFirst, beq_iff_eq.mp (equates.symm (beq_iff_eq.mpr equal))⟩

theorem Equates.looseTest_symm (equates : arithmetic.Equates)
    (loose : arithmetic.looseTest a b = true) : arithmetic.looseTest b a = true := by
  unfold looseTest at loose
  split at loose
  case h_1 => rfl
  case h_2 notNull =>
    cases exactly : ordersExactly a b with
    | true =>
      rw [valueOrder?, if_pos exactly, beq_iff_eq, order?_eq_some_eq_iff exactly] at loose
      exact looseTest_of_sameTest (equates.sameTest_symm loose)
    | false =>
      rw [valueOrder?, exactly, beq_iff_eq] at loose
      have turned := equates.numericOrder?_symm loose
      unfold looseTest
      split
      · rfl
      · simp [valueOrder?, ordersExactly_comm, exactly, turned]

theorem Equates.sameTest_refl (equates : arithmetic.Equates) (notList : Value.areLists a a = false)
    (free : a.hasNaN = false) : arithmetic.sameTest a a = true := by
  cases a with
  | null => rfl
  | float x => exact equates.refl free
  | list items => cases notList
  | _ => exact beq_self_eq_true _

theorem looseTest_iff (notNull : (a.isNull && b.isNull) = false) :
    arithmetic.looseTest a b = true ↔ arithmetic.compare? .eq a b = some true := by
  unfold looseTest
  split
  case h_1 => cases notNull
  case h_2 =>
    rw [beq_iff_eq, compare?]
    cases arithmetic.valueOrder? a b with
    | none => simp
    | some order => cases order <;> simp [Comparison.holds]

theorem equates_standard : standard.Equates where
  symm {x y} equal := by
    have found : Number.order? x y = some .eq := beq_iff_eq.mp equal
    have swapped : Number.order? y x = some .eq := by rw [Number.order?_swap, found]; rfl
    exact beq_iff_eq.mpr swapped
  refl number := beq_iff_eq.mpr (Number.order?_self number)

end Arithmetic

/-! ## The equalities of values -/

/-- Three equalities of values, each of which implies the next. The last two are
symmetric, reflexive but for NaN, and go through lists item by item; the last one
is what a comparison for equality answers. -/
structure EqualityHierarchy (same strict loose : Value → Value → Bool)
    (equals? : Value → Value → Option Bool) : Prop where
  strict_of_same : ∀ a b, same a b = true → strict a b = true
  loose_of_strict : ∀ a b, strict a b = true → loose a b = true
  strict_symm : ∀ a b, strict a b = strict b a
  loose_symm : ∀ a b, loose a b = loose b a
  strict_refl : ∀ a, a.hasNaN = false → strict a a = true
  loose_refl : ∀ a, a.hasNaN = false → loose a a = true
  strict_lists : ∀ as bs : List Value, strict (.list as) (.list bs) = true ↔
    as.length = bs.length ∧
      ∀ i (_ : i < as.length) (_ : i < bs.length), strict as[i] bs[i] = true
  loose_lists : ∀ as bs : List Value, loose (.list as) (.list bs) = true ↔
    as.length = bs.length ∧
      ∀ i (_ : i < as.length) (_ : i < bs.length), loose as[i] bs[i] = true
  loose_iff_equals : ∀ a b, Value.areLists a b = false → (a.isNull && b.isNull) = false →
    (loose a b = true ↔ equals? a b = some true)

namespace Value

open Arithmetic

theorem same_goesItemwise : GoesItemwise same standard.sameTest where
  lists as bs := by
    rw [same]
    apply eq_true_iff_forall₂ <;> intros <;> simp only [sameItems]
  others a b open_ := by
    revert open_
    cases a <;> cases b <;>
      simp [areLists, same, sameTest, equal, standard, Number.equal]

theorem strictEq_goesItemwise : GoesItemwise strictEq standard.strictTest where
  lists as bs := by
    rw [strictEq]
    apply eq_true_iff_forall₂ <;> intros <;> simp only [strictEqItems]
  others a b open_ := by
    revert open_
    cases a <;> cases b <;>
      simp [areLists, strictEq, same, strictTest, sameTest, equal, standard, Number.equal]

theorem looseEq_goesItemwise : GoesItemwise looseEq standard.looseTest where
  lists as bs := by
    rw [looseEq]
    apply eq_true_iff_forall₂ <;> intros <;> simp only [looseEqItems]
  others a b open_ := by
    revert open_
    cases a <;> cases b <;>
      simp [areLists, looseEq, looseTest, valueOrder?_standard]

theorem looseEq_comm (a b : Value) : looseEq a b = looseEq b a :=
  looseEq_goesItemwise.comm (fun _ _ => equates_standard.looseTest_symm) a b

theorem equalityHierarchy {arithmetic : Arithmetic} (equates : arithmetic.Equates)
    {same strict loose : Value → Value → Bool}
    (goesSame : GoesItemwise same arithmetic.sameTest)
    (goesStrict : GoesItemwise strict arithmetic.strictTest)
    (goesLoose : GoesItemwise loose arithmetic.looseTest) :
    EqualityHierarchy same strict loose (arithmetic.compare? .eq) where
  strict_of_same _ _ := goesSame.mono goesStrict fun _ _ => strictTest_of_sameTest
  loose_of_strict _ _ := goesStrict.mono goesLoose fun _ _ => looseTest_of_strictTest
  strict_symm := goesStrict.comm fun _ _ => equates.strictTest_symm
  loose_symm := goesLoose.comm fun _ _ => equates.looseTest_symm
  strict_refl _ := goesStrict.refl fun _ notList free =>
    strictTest_of_sameTest (equates.sameTest_refl notList free)
  loose_refl _ := goesLoose.refl fun _ notList free =>
    looseTest_of_sameTest (equates.sameTest_refl notList free)
  strict_lists as bs := (goesStrict.lists as bs).trans List.forall₂_iff_get
  loose_lists as bs := (goesLoose.lists as bs).trans List.forall₂_iff_get
  loose_iff_equals a b notLists notNull := by
    rw [goesLoose.others a b notLists]
    exact looseTest_iff notNull

/-- The same content, strict equality and loose equality form a hierarchy. It is so
with any reading of words and texts as doubles, and any order of doubles that
equates them as a symmetric relation, reflexive but for NaN. -/
theorem equalities_form_hierarchy :
    EqualityHierarchy same strictEq looseEq (Value.compare? .eq) ∧
    ∀ arithmetic : Arithmetic, arithmetic.Equates →
      EqualityHierarchy arithmetic.same arithmetic.strictEq arithmetic.looseEq
        (arithmetic.compare? .eq) := by
  constructor
  · rw [← compare?_standard]
    exact equalityHierarchy equates_standard same_goesItemwise strictEq_goesItemwise
      looseEq_goesItemwise
  · intro arithmetic equates
    exact equalityHierarchy equates (itemwise_goesItemwise _) (itemwise_goesItemwise _)
      (itemwise_goesItemwise _)

/-- A word and a double inside lists are not the same, but strictly equal; a text
is loosely equal to both, and NaN not even to itself. -/
theorem equalities_form_hierarchy_of_nested_numbers :
    let word := Value.list [.null, .list [.int 1]]
    let double := Value.list [.null, .list [.float 1]]
    let text := Value.list [.null, .list [.text "1"]]
    standard.Equates ∧
    same word double = false ∧ strictEq word double = true ∧ looseEq word double = true ∧
    strictEq word text = false ∧ standard.looseEq word text = true ∧
    standard.looseEq text word = true ∧
    double.hasNaN = false ∧ standard.strictEq double double = true ∧
    strictEq (.float Number.nan) (.float Number.nan) = false := by
  intro word double text
  obtain ⟨hierarchy, others⟩ := equalities_form_hierarchy
  have general := others standard equates_standard
  have strict : strictEq word double = true := by decide +kernel
  have loose : standard.looseEq word text = true := by decide +kernel
  have free : double.hasNaN = false := by decide +kernel
  refine ⟨equates_standard, by decide +kernel, strict, hierarchy.loose_of_strict _ _ strict,
    by decide +kernel, loose, ?_, free, general.strict_refl _ free, by decide +kernel⟩
  rw [general.loose_symm, loose]

end Value

end Eligibility
