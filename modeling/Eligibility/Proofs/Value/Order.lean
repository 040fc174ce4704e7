import Eligibility.Value.Basic

/-!
How values are ordered. Two values answer all six comparisons or none, and the
answers are those of one order, also when the operands are swapped. Of doubles
this takes one law, that swapping two of them swaps how they are ordered; which
doubles words and texts are read as plays no part.
-/

set_option autoImplicit false

namespace Eligibility

/-! ## The six comparisons -/

namespace Comparison

/-- The answers to all six comparisons of two operands: none at all, or those of
exactly one of less, equal and greater. -/
def Coherent (answer? : Comparison → Option Bool) : Prop :=
  (∀ comparison, answer? comparison = none) ∨
    ∃ less equal greater : Bool,
      [less, equal, greater].count true = 1 ∧
      answer? .lt = some less ∧ answer? .eq = some equal ∧ answer? .gt = some greater ∧
      answer? .le = some (less || equal) ∧ answer? .ge = some (greater || equal) ∧
      answer? .ne = some !equal

theorem coherent_holds (found : Option Ordering) :
    Coherent fun comparison => found.map comparison.holds := by
  cases found with
  | none => exact .inl fun _ => rfl
  | some order =>
    refine .inr ⟨lt.holds order, eq.holds order, gt.holds order, ?_⟩
    cases order <;> exact ⟨rfl, rfl, rfl, rfl, rfl, rfl, rfl⟩

theorem holds_flip_swap (comparison : Comparison) (found : Option Ordering) :
    (found.map Ordering.swap).map comparison.flip.holds = found.map comparison.holds := by
  rw [Option.map_map]
  congr 1
  funext order
  exact holds_flip comparison order

end Comparison

namespace Number

theorem order?_swap (x y : Float) : order? y x = (order? x y).map Ordering.swap := by
  unfold order?
  cases rank? x with
  | none => cases rank? y <;> rfl
  | some a =>
    cases rank? y with
    | none => rfl
    | some b => exact congrArg some Std.OrientedOrd.eq_swap

theorem order?_self {x : Float} (number : isNaN x = false) : order? x x = some .eq := by
  unfold isNaN at number
  unfold order?
  cases rank : rank? x with
  | none => rw [rank] at number; cases number
  | some r => exact congrArg some Std.ReflOrd.compare_self

end Number

/-! ## Orders of values -/

/-- What an order of values needs to know of doubles: the double that a word or a
text is read as, and how two doubles are ordered. -/
structure Arithmetic where
  ofWord : Int64 → Float
  ofText? : String → Option Float
  order? : Float → Float → Option Ordering

namespace Arithmetic

def standard : Arithmetic where
  ofWord := Value.wordToFloat
  ofText? s := Number.ofText? (Text.trim s)
  order? := Number.order?

variable (arithmetic : Arithmetic)

def Mirrors : Prop :=
  ∀ x y, arithmetic.order? y x = (arithmetic.order? x y).map Ordering.swap

def toFloat? : Value → Option Float
  | .int i => some (arithmetic.ofWord i)
  | .float x => some x
  | .text s => arithmetic.ofText? s
  | _ => none

def numericOrder? (a b : Value) : Option Ordering := do
  let x ← arithmetic.toFloat? a
  let y ← arithmetic.toFloat? b
  arithmetic.order? x y

def ordersExactly : Value → Value → Bool
  | .int _, .int _ | .bool _, .bool _ | .text _, .text _ => true
  | _, _ => false

def valueOrder? (a b : Value) : Option Ordering :=
  if ordersExactly a b then Value.order? a b else arithmetic.numericOrder? a b

def compare? (comparison : Comparison) (a b : Value) : Option Bool :=
  (arithmetic.valueOrder? a b).map comparison.holds

theorem order?_eq_numericOrder? {a b : Value} (mixed : ordersExactly a b = false) :
    Value.order? a b = Value.numericOrder? a b := by
  -- A text may spell no number, so it is not clear by itself that it has no order.
  cases a <;> cases b <;>
    first | rfl | (cases mixed; done) | simp [Value.order?, Value.numericOrder?, Value.toFloat?]

theorem toFloat?_standard : standard.toFloat? = Value.toFloat? := by
  funext value
  cases value <;> rfl

theorem valueOrder?_standard : standard.valueOrder? = Value.order? := by
  funext a b
  unfold valueOrder?
  split
  case isTrue => rfl
  case isFalse mixed =>
    rw [order?_eq_numericOrder? (Bool.eq_false_iff.mpr mixed), numericOrder?, toFloat?_standard]
    rfl

theorem compare?_standard : standard.compare? = Value.compare? := by
  funext comparison a b
  rw [compare?, valueOrder?_standard, Value.compare?]

theorem mirrors_standard : standard.Mirrors := Number.order?_swap

theorem ordersExactly_comm (a b : Value) : ordersExactly b a = ordersExactly a b := by
  cases a <;> cases b <;> rfl

theorem compareText_swap (s t : String) :
    compareOfLessAndEq t s = (compareOfLessAndEq s t).swap := by
  change compare t s = (compare s t).swap
  exact Std.OrientedOrd.eq_swap

theorem order?_swap_of_ordersExactly {a b : Value} (exactly : ordersExactly a b = true) :
    Value.order? b a = (Value.order? a b).map Ordering.swap := by
  unfold ordersExactly at exactly
  split at exactly
  · exact congrArg some Std.OrientedOrd.eq_swap
  · exact congrArg some Std.OrientedOrd.eq_swap
  · exact congrArg some (compareText_swap _ _)
  · cases exactly

variable {arithmetic}

theorem Mirrors.numericOrder?_swap (mirrors : arithmetic.Mirrors) (a b : Value) :
    arithmetic.numericOrder? b a = (arithmetic.numericOrder? a b).map Ordering.swap := by
  unfold numericOrder?
  cases arithmetic.toFloat? a with
  | none => cases arithmetic.toFloat? b <;> rfl
  | some x =>
    cases arithmetic.toFloat? b with
    | none => rfl
    | some y => exact mirrors x y

theorem Mirrors.valueOrder?_swap (mirrors : arithmetic.Mirrors) (a b : Value) :
    arithmetic.valueOrder? b a = (arithmetic.valueOrder? a b).map Ordering.swap := by
  unfold valueOrder?
  rw [ordersExactly_comm]
  split
  case isTrue exactly => exact order?_swap_of_ordersExactly exactly
  case isFalse => exact mirrors.numericOrder?_swap a b

end Arithmetic

/-! ## Coherence -/

def ComparesCoherently (compare? : Comparison → Value → Value → Option Bool) : Prop :=
  ∀ a b : Value,
    Comparison.Coherent (fun comparison => compare? comparison a b) ∧
    ∀ comparison, compare? comparison a b = compare? comparison.flip b a

theorem Arithmetic.Mirrors.comparesCoherently {arithmetic : Arithmetic}
    (mirrors : arithmetic.Mirrors) : ComparesCoherently arithmetic.compare? := by
  intro a b
  refine ⟨Comparison.coherent_holds (arithmetic.valueOrder? a b), fun comparison => ?_⟩
  unfold Arithmetic.compare?
  rw [mirrors.valueOrder?_swap a b, Comparison.holds_flip_swap]

namespace Value

theorem compare?_flip (comparison : Comparison) (a b : Value) :
    compare? comparison.flip b a = compare? comparison a b := by
  have coherent := Arithmetic.mirrors_standard.comparesCoherently a b
  rw [Arithmetic.compare?_standard] at coherent
  exact (coherent.2 comparison).symm

/-- Any two values answer all six comparisons as one order does, or none of them,
and answer a flipped comparison alike with the operands swapped. It is so with any
reading of words and texts as doubles, and any order of doubles that mirrors. -/
theorem compare?_coherent :
    ComparesCoherently compare? ∧
    ∀ arithmetic : Arithmetic, arithmetic.Mirrors → ComparesCoherently arithmetic.compare? := by
  refine ⟨?_, fun arithmetic mirrors => mirrors.comparesCoherently⟩
  rw [← Arithmetic.compare?_standard]
  exact Arithmetic.mirrors_standard.comparesCoherently

/-- A word that is no double is as great as the one that it is rounded to, and a
text that spells no number is not ordered with it. -/
theorem compare?_coherent_of_rounded_word :
    let word := Value.int 9007199254740993
    let double := Value.float 9007199254740992
    Arithmetic.standard.Mirrors ∧
    compare? .eq word double = some true ∧ compare? .eq word (.text "nan") = none ∧
    Comparison.Coherent (fun comparison => compare? comparison word double) ∧
    Arithmetic.standard.compare? .ge word double =
      Arithmetic.standard.compare? .le double word := by
  intro word double
  obtain ⟨coherent, others⟩ := compare?_coherent
  have mirrors := Arithmetic.mirrors_standard
  refine ⟨mirrors, by decide +kernel, by decide +kernel, (coherent word double).1, ?_⟩
  exact (others .standard mirrors word double).2 .ge

end Value

end Eligibility
