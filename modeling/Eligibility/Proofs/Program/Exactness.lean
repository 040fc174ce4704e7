import Eligibility.Proofs.Program.MorePasses

/-!
How far the classification in words is exact. The totals that are classified by
the exact share, whatever the number of passed rules, are those for which no
product can wrap, and they end where five times one less needs a longer word. Up
to there the status follows the share alone and gets no less favourable with more
passes.
-/

set_option autoImplicit false

namespace Eligibility.Classification

def ratio (passed total : Nat) : ℚ := (min passed total : ℕ) / (total : ℕ)

def ofRatio (passed total : Nat) : Classification :=
  if total = 0 then ⟨.notQualified, .high, 90⟩
  else if 1 ≤ ratio passed total then ⟨.qualified, .high, 95⟩
  else if 4 / 5 ≤ ratio passed total then ⟨.likely, .medium, 75⟩
  else if 1 / 2 ≤ ratio passed total then ⟨.maybe, .medium, 60⟩
  else if 3 / 10 ≤ ratio passed total then ⟨.unlikely, .low, 40⟩
  else ⟨.notQualified, .high, 90⟩

theorem ofRatio_eq_ofShare (passed total : Nat) :
    ofRatio passed total = ofShare (ratio passed total) := by
  unfold ofRatio
  by_cases empty : total = 0
  · subst empty
    rw [if_pos rfl, ratio, Nat.cast_zero, div_zero, ofShare_zero]
    rfl
  · rw [if_neg empty, ofShare_eq]
    rfl

theorem ratio_mono {less more : Nat} (le : less ≤ more) (total : Nat) :
    ratio less total ≤ ratio more total := by
  have counted : ((min less total : ℕ) : ℚ) ≤ (min more total : ℕ) := by
    exact_mod_cast min_le_min_right total le
  exact div_le_div_of_nonneg_right counted (Nat.cast_nonneg total)

theorem ofCounts_eq_ofRatio {passed total : UInt64} (noneWraps : NoneWraps passed total) :
    ofCounts passed total = ofRatio passed.toNat total.toNat := by
  rw [ofCounts_eq_ofShare noneWraps, ofRatio_eq_ofShare, ratio, UInt64.toNat_min]

/-! ## Totals that are too great -/

section
variable {passed total : UInt64}

theorem ofCounts_of_lt (below : passed < total) :
    ofCounts passed total =
      if 4 * total ≤ passed * 5 then ⟨.likely, .medium, 75⟩
      else if total ≤ passed * 2 then ⟨.maybe, .medium, 60⟩
      else if 3 * total ≤ passed * 10 then ⟨.unlikely, .low, 40⟩
      else notQualified := by
  have nonzero : total ≠ 0 := by
    rintro rfl
    exact absurd below UInt64.not_lt_zero
  have least : min passed total = passed := if_pos (UInt64.le_of_lt below)
  have missesAll : ¬ total ≤ passed := UInt64.not_le.mpr below
  simp only [ofCounts, if_neg nonzero, least, table, List.find?_cons, List.find?_nil,
    UInt64.one_mul, UInt64.mul_one, missesAll, decide_false]
  by_cases most : 4 * total ≤ passed * 5
  · simp only [most, decide_true, if_true]
  · by_cases half : total ≤ passed * 2
    · simp only [most, half, decide_true, decide_false, if_true, if_false]
    · by_cases few : 3 * total ≤ passed * 10 <;>
        simp only [most, half, few, decide_true, decide_false, if_true, if_false]

theorem ofRatio_eq_likely_iff (below : passed < total) :
    ofRatio passed.toNat total.toNat = ⟨.likely, .medium, 75⟩ ↔
      4 * total.toNat ≤ 5 * passed.toNat := by
  have below : passed.toNat < total.toNat := UInt64.lt_iff_toNat_lt.mp below
  have nonzero : total.toNat ≠ 0 := by omega
  have positive : (0 : ℚ) < total.toNat := by exact_mod_cast Nat.pos_of_ne_zero nonzero
  have missesAll : ¬ (1 : ℚ) ≤ (passed.toNat : ℚ) / total.toNat := by
    rw [le_div_iff₀ positive, one_mul]
    exact_mod_cast Nat.not_le.mpr below
  have most : (4 : ℚ) / 5 ≤ (passed.toNat : ℚ) / total.toNat ↔
      4 * total.toNat ≤ 5 * passed.toNat := by
    rw [div_le_div_iff₀ (by norm_num) positive, mul_comm (passed.toNat : ℚ)]
    exact_mod_cast Iff.rfl
  unfold ofRatio ratio
  simp only [if_neg nonzero, Nat.min_eq_left below.le, if_neg missesAll, ← most]
  split_ifs <;> simp_all

theorem ofCounts_eq_likely_iff (below : passed < total) :
    ofCounts passed total = ⟨.likely, .medium, 75⟩ ↔
      4 * total.toNat % 2 ^ 64 ≤ passed.toNat * 5 % 2 ^ 64 := by
  have words : 4 * total ≤ passed * 5 ↔
      4 * total.toNat % 2 ^ 64 ≤ passed.toNat * 5 % 2 ^ 64 := by
    rw [UInt64.le_iff_toNat_le, UInt64.toNat_mul, UInt64.toNat_mul]
    rfl
  rw [ofCounts_of_lt below, ← words]
  split_ifs <;> simp_all [notQualified]

/-- Past the bound some number of passed rules is compared with the threshold of
four fifths by a product that has wrapped, to the wrong side. -/
theorem exists_wrong (overflows : 2 ^ 64 ≤ 5 * (total.toNat - 1)) :
    ∃ passed : UInt64, ofCounts passed total ≠ ofRatio passed.toNat total.toNat := by
  by_cases wraps : 2 ^ 64 ≤ 4 * total.toNat
  · -- The greatest product that does not wrap is above any that does.
    have reads : (3689348814741910323 : UInt64).toNat = 3689348814741910323 := rfl
    have below : 3689348814741910323 < total := UInt64.lt_iff_toNat_lt.mpr (by omega)
    refine ⟨3689348814741910323, fun same => ?_⟩
    have likely := (ofCounts_eq_likely_iff below).mpr (by omega)
    rw [same, ofRatio_eq_likely_iff below] at likely
    omega
  · -- The least product that wraps comes to four, below any that does not.
    have reads : (3689348814741910324 : UInt64).toNat = 3689348814741910324 := rfl
    have below : 3689348814741910324 < total := UInt64.lt_iff_toNat_lt.mpr (by omega)
    refine ⟨3689348814741910324, fun same => ?_⟩
    have likely := (ofRatio_eq_likely_iff below).mpr (by omega)
    rw [← same, ofCounts_eq_likely_iff below] at likely
    omega

end

/-! ## All totals -/

/-- A total is classified by the exact ratio, whatever the number of passed rules,
exactly if none of the products wraps for it, and that is if five times one less
fits in a word. Where no product wraps, more passes give no less favourable a
status, and equal ratios the same classification. -/
theorem ofCounts_exact_iff (total : UInt64) :
    ((∀ passed : UInt64, ofCounts passed total = ofRatio passed.toNat total.toNat) ↔
      5 * (total.toNat - 1) < 2 ^ 64) ∧
    ((∀ passed, NoneWraps passed total) ↔ 5 * (total.toNat - 1) < 2 ^ 64) ∧
    (∀ passed : UInt64, NoneWraps passed total →
      ofCounts passed total = ofRatio passed.toNat total.toNat) ∧
    (∀ less more : UInt64, NoneWraps less total → NoneWraps more total → less ≤ more →
      (ofCounts more total).status ≤ (ofCounts less total).status) ∧
    (∀ passed passed' total' : UInt64, NoneWraps passed total → NoneWraps passed' total' →
      ratio passed.toNat total.toNat = ratio passed'.toNat total'.toNat →
      ofCounts passed total = ofCounts passed' total') := by
  have fits_of_exact :
      (∀ passed : UInt64, ofCounts passed total = ofRatio passed.toNat total.toNat) →
        5 * (total.toNat - 1) < 2 ^ 64 := by
    intro all
    by_contra overflows
    obtain ⟨passed, wrong⟩ := exists_wrong (Nat.le_of_not_lt overflows)
    exact wrong (all passed)
  refine ⟨⟨fits_of_exact, fun fits passed => ?_⟩, ⟨fun none => ?_, noneWraps_of_fits⟩,
    fun passed none => ofCounts_eq_ofRatio none, ?_, ?_⟩
  · exact ofCounts_eq_ofRatio (noneWraps_of_fits fits passed)
  · exact fits_of_exact fun passed => ofCounts_eq_ofRatio (none passed)
  · intro less more noneLess noneMore le
    rw [ofCounts_eq_ofRatio noneLess, ofCounts_eq_ofRatio noneMore, ofRatio_eq_ofShare,
      ofRatio_eq_ofShare]
    exact ofShare_status_antitone (ratio_mono (UInt64.le_iff_toNat_le.mp le) total.toNat)
  · intro passed passed' total' none none' same
    rw [ofCounts_eq_ofRatio none, ofCounts_eq_ofRatio none', ofRatio_eq_ofShare,
      ofRatio_eq_ofShare, same]

/-- The greatest total that is always classified exactly, and the next one. -/
theorem ofCounts_exact_iff_at_bound :
    (∀ passed : UInt64, ofCounts passed 3689348814741910324 =
      ofRatio passed.toNat (3689348814741910324 : UInt64).toNat) ∧
    (¬ ∀ passed : UInt64, ofCounts passed 3689348814741910325 =
      ofRatio passed.toNat (3689348814741910325 : UInt64).toNat) ∧
    (ofCounts 3689348814741910323 3689348814741910324).status ≤
      (ofCounts 5 3689348814741910324).status := by
  obtain ⟨exactly, wraps, -, monotone, -⟩ := ofCounts_exact_iff 3689348814741910324
  have fits : 5 * ((3689348814741910324 : UInt64).toNat - 1) < 2 ^ 64 := by decide
  have none := wraps.mpr fits
  refine ⟨exactly.mpr fits, fun all => ?_, monotone _ _ (none _) (none _) (by decide)⟩
  exact absurd ((ofCounts_exact_iff 3689348814741910325).1.mp all) (by decide)

/-- Of a great many rules none passes. Four times their number wraps to zero, so
that none seems to be four fifths of them. -/
theorem ofCounts_likely_of_no_passes :
    ofCounts 0 4611686018427387904 = ⟨.likely, .medium, 75⟩ ∧
    ofRatio 0 4611686018427387904 = ⟨.notQualified, .high, 90⟩ ∧
    ¬ NoneWraps 0 4611686018427387904 := by
  have exactly : ofRatio 0 4611686018427387904 = ⟨.notQualified, .high, 90⟩ := by
    norm_num [ofRatio, ratio]
  refine ⟨by decide, exactly, fun none => ?_⟩
  have same := ofCounts_eq_ofRatio none
  exact absurd (same.trans exactly) (by decide)

end Eligibility.Classification
