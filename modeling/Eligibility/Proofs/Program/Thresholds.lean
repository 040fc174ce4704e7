import Mathlib.Algebra.Order.Field.Basic
import Mathlib.Algebra.Order.Ring.Rat
import Mathlib.Tactic.NormNum
import Eligibility.Program.Classification

/-!
The thresholds of the classification on exact shares. The products in 64-bit
words decide what the fractions decide where none of them wraps; and none wraps
as long as five times one less than the total fits in a word.
-/

set_option autoImplicit false

namespace Eligibility

def ClassificationRow.share (row : ClassificationRow) : ℚ :=
  (row.num.toNat : ℚ) / row.den.toNat

structure ClassificationRow.Fits (row : ClassificationRow) (passed total : UInt64) : Prop where
  threshold : row.num.toNat * total.toNat < 2 ^ 64
  reached : passed.toNat * row.den.toNat < 2 ^ 64

namespace Classification

def ofRow? : Option ClassificationRow → Classification
  | some row => row.classification
  | none => notQualified

def ofShare (share : ℚ) : Classification := ofRow? (table.find? fun row => row.share ≤ share)

theorem ofShare_eq (share : ℚ) :
    ofShare share =
      if 1 ≤ share then ⟨.qualified, .high, 95⟩
      else if 4 / 5 ≤ share then ⟨.likely, .medium, 75⟩
      else if 1 / 2 ≤ share then ⟨.maybe, .medium, 60⟩
      else if 3 / 10 ≤ share then ⟨.unlikely, .low, 40⟩
      else notQualified := by
  have shares : table.map (·.share) = [1, 4 / 5, 1 / 2, 3 / 10] := by
    simp [table, ClassificationRow.share]
  simp only [table, List.map_cons, List.map_nil, List.cons.injEq, and_true] at shares
  obtain ⟨all, most, half, few⟩ := shares
  simp only [ofShare, table, List.find?_cons, List.find?_nil, all, most, half, few]
  by_cases reachesAll : 1 ≤ share
  · simp only [reachesAll, decide_true, if_true, ofRow?]
  · by_cases reachesMost : 4 / 5 ≤ share
    · simp only [reachesAll, reachesMost, decide_true, decide_false, if_true, if_false, ofRow?]
    · by_cases reachesHalf : 1 / 2 ≤ share
      · simp only [reachesAll, reachesMost, reachesHalf, decide_true, decide_false, if_true,
          if_false, ofRow?]
      · by_cases reachesFew : 3 / 10 ≤ share <;>
          simp only [reachesAll, reachesMost, reachesHalf, reachesFew, decide_true, decide_false,
            if_true, if_false, ofRow?]

/-! ## Products in words -/

theorem reaches_iff {row : ClassificationRow} (listed : row ∈ table) {passed total : UInt64}
    (nonzero : total ≠ 0) (fits : row.Fits passed total) :
    row.num * total ≤ passed * row.den ↔
      row.share ≤ (passed.toNat : ℚ) / total.toNat := by
  have positive : ∀ row ∈ table, 0 < row.den.toNat := by decide
  have nonzero : 0 < total.toNat := Nat.pos_of_ne_zero fun zero => nonzero (UInt64.toNat.inj zero)
  have denominators : (0 : ℚ) < row.den.toNat ∧ (0 : ℚ) < total.toNat := by
    exact_mod_cast And.intro (positive row listed) nonzero
  rw [UInt64.le_iff_toNat_le, UInt64.toNat_mul, UInt64.toNat_mul, Nat.mod_eq_of_lt fits.threshold,
    Nat.mod_eq_of_lt fits.reached, ClassificationRow.share,
    div_le_div_iff₀ denominators.1 denominators.2]
  norm_cast

/-- The rows that the counts are compared with: down to the first that they reach. -/
def tried (passed total : UInt64) : List ClassificationRow → List ClassificationRow
  | [] => []
  | row :: rest =>
    row :: if row.num * total ≤ passed * row.den then [] else tried passed total rest

theorem forall_mem_tried_cons {passed total : UInt64} {row : ClassificationRow}
    {rest : List ClassificationRow} {property : ClassificationRow → Prop} :
    (∀ r ∈ tried passed total (row :: rest), property r) ↔
      property row ∧ (¬ row.num * total ≤ passed * row.den →
        ∀ r ∈ tried passed total rest, property r) := by
  rw [tried, List.forall_mem_cons]
  by_cases reached : row.num * total ≤ passed * row.den <;> simp [reached]

def NoneWraps (passed total : UInt64) : Prop :=
  total ≠ 0 → ∀ row ∈ tried (min passed total) total table, row.Fits (min passed total) total

theorem find?_eq_of_fits {passed total : UInt64} (nonzero : total ≠ 0)
    {rows : List ClassificationRow} (listed : rows ⊆ table)
    (fits : ∀ row ∈ tried passed total rows, row.Fits passed total) :
    (rows.find? fun row => row.num * total ≤ passed * row.den) =
      rows.find? fun row => row.share ≤ (passed.toNat : ℚ) / total.toNat := by
  induction rows with
  | nil => rfl
  | cons row rest ih =>
    obtain ⟨here, others⟩ := List.cons_subset.mp listed
    obtain ⟨fitsHere, fitsBelow⟩ := forall_mem_tried_cons.mp fits
    have same := reaches_iff here nonzero fitsHere
    by_cases reached : row.num * total ≤ passed * row.den
    · simp only [List.find?_cons, reached, same.mp reached, decide_true]
    · have below : ¬ row.share ≤ (passed.toNat : ℚ) / total.toNat := mt same.mpr reached
      simp only [List.find?_cons, reached, below, decide_false]
      exact ih others (fitsBelow reached)

theorem ofShare_zero : ofShare 0 = notQualified := by
  rw [ofShare_eq]
  norm_num

theorem ofCounts_eq_ofShare {passed total : UInt64} (noneWraps : NoneWraps passed total) :
    ofCounts passed total = ofShare ((min passed total).toNat / total.toNat) := by
  by_cases nonzero : total = 0
  · subst nonzero
    have nothing : ((min passed 0).toNat : ℚ) / (0 : UInt64).toNat = 0 := by
      simp
    rw [nothing, ofShare_zero]
    rfl
  · calc ofCounts passed total
        = ofRow? (table.find? fun row => row.num * total ≤ min passed total * row.den) :=
          if_neg nonzero
      _ = ofShare ((min passed total).toNat / total.toNat) :=
          congrArg ofRow? (find?_eq_of_fits nonzero (List.Subset.refl _) (noneWraps nonzero))

/-- A row is tried only when the rows above it are missed: five times the passed
rules are compared when there are fewer than the total, and ten times when there
are fewer than half of it. -/
theorem noneWraps_of_fits {total : UInt64} (fits : 5 * (total.toNat - 1) < 2 ^ 64)
    (passed : UInt64) : NoneWraps passed total := by
  intro nonzero
  have positive : total.toNat ≠ 0 := fun zero => nonzero (UInt64.toNat.inj zero)
  have bounded : (min passed total).toNat ≤ total.toNat :=
    UInt64.le_iff_toNat_le.mp Std.min_le_right
  generalize min passed total = passed at bounded ⊢
  simp only [table, forall_mem_tried_cons]
  refine ⟨?all, fun missesAll => ⟨?most, fun _ => ⟨?half, fun missesHalf => ⟨?few, nofun⟩⟩⟩⟩
  case all => constructor <;> simp only [UInt64.reduceToNat] <;> omega
  case half => constructor <;> simp only [UInt64.reduceToNat] <;> omega
  case most =>
    have below := missesAll
    rw [UInt64.le_iff_toNat_le, UInt64.one_mul, UInt64.mul_one] at below
    constructor <;> simp only [UInt64.reduceToNat] <;> omega
  case few =>
    have below := missesHalf
    rw [UInt64.le_iff_toNat_le, UInt64.one_mul, UInt64.toNat_mul] at below
    simp only [UInt64.reduceToNat] at below
    constructor <;> simp only [UInt64.reduceToNat] <;> omega

theorem ofCounts_ofNat {passed total : Nat} (bounded : passed ≤ total)
    (fits : total * 10 < 2 ^ 64) :
    ofCounts (UInt64.ofNat passed) (UInt64.ofNat total) = ofShare ((passed : ℚ) / total) := by
  have passedWord : (UInt64.ofNat passed).toNat = passed :=
    UInt64.toNat_ofNat_of_lt' (show passed < 2 ^ 64 by omega)
  have totalWord : (UInt64.ofNat total).toNat = total :=
    UInt64.toNat_ofNat_of_lt' (show total < 2 ^ 64 by omega)
  have le : UInt64.ofNat passed ≤ UInt64.ofNat total := by
    rwa [UInt64.le_iff_toNat_le, passedWord, totalWord]
  have least : min (UInt64.ofNat passed) (UInt64.ofNat total) = UInt64.ofNat passed := if_pos le
  rw [ofCounts_eq_ofShare (noneWraps_of_fits (by omega) _), least, passedWord, totalWord]

end Classification

end Eligibility
