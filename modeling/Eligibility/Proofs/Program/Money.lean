import Eligibility.Program.Calculation
import Eligibility.Proofs.Number.Numeral

/-!
Amounts of money in writing. The digits of the whole dollars are cut into threes from
the right with a comma at each cut, and without the commas they are the numeral of the
dollars; the cents always take two digits.
-/

set_option autoImplicit false

namespace Eligibility.Money

open Eligibility.Number (IsNumeral isNumeral_toDigits)

/-! ## Groups of digits -/

/-- A cut of digits into threes from the right, which leaves one to three in front. -/
structure IsCut (digits first : List Char) (groups : List (List Char)) : Prop where
  whole : digits = first ++ groups.flatten
  first_ne_nil : first ≠ []
  first_short : first.length ≤ 3
  threes : ∀ group ∈ groups, group.length = 3

namespace IsCut
variable {digits first : List Char} {groups : List (List Char)}

theorem length_eq (cut : IsCut digits first groups) :
    digits.length = first.length + groups.length * 3 := by
  have lengths : groups.map List.length = List.replicate groups.length 3 :=
    List.map_eq_replicate_iff.mpr cut.threes
  rw [cut.whole, List.length_append, List.length_flatten, lengths, List.sum_replicate_nat]

theorem first_full_iff (cut : IsCut digits first groups) :
    first.length = 3 ↔ digits.length % 3 = 0 := by
  have total := cut.length_eq
  have nonempty := List.length_pos_iff.mpr cut.first_ne_nil
  have short := cut.first_short
  omega

theorem singleton (c : Char) : IsCut [c] [c] [] :=
  ⟨rfl, List.cons_ne_nil _ _, Nat.succ_le_succ (Nat.zero_le 2), List.forall_mem_nil _⟩

theorem open_group (cut : IsCut digits first groups) (full : digits.length % 3 = 0) (c : Char) :
    IsCut (c :: digits) [c] (first :: groups) where
  whole := congrArg (c :: ·) cut.whole
  first_ne_nil := List.cons_ne_nil _ _
  first_short := Nat.succ_le_succ (Nat.zero_le 2)
  threes := List.forall_mem_cons.mpr ⟨cut.first_full_iff.mpr full, cut.threes⟩

theorem extend_first (cut : IsCut digits first groups) (room : digits.length % 3 ≠ 0) (c : Char) :
    IsCut (c :: digits) (c :: first) groups where
  whole := congrArg (c :: ·) cut.whole
  first_ne_nil := List.cons_ne_nil _ _
  first_short := by
    have notFull : first.length ≠ 3 := fun full => room (cut.first_full_iff.mp full)
    have short := cut.first_short
    rw [List.length_cons]
    omega
  threes := cut.threes

end IsCut

theorem grouped_eq_intercalate {digits : List Char} (nonempty : digits ≠ []) :
    ∃ first groups, IsCut digits first groups ∧
      grouped digits = List.intercalate [','] (first :: groups) := by
  induction digits with
  | nil => exact absurd rfl nonempty
  | cons c rest ih =>
    rcases eq_or_ne rest [] with rfl | more
    · exact ⟨[c], [], .singleton c, rfl⟩
    · obtain ⟨first, groups, cut, text⟩ := ih more
      by_cases full : rest.length % 3 = 0
      · refine ⟨[c], first :: groups, cut.open_group full c, ?_⟩
        rw [grouped, if_pos ⟨full, more⟩, text, List.intercalate_cons_cons]
        rfl
      · refine ⟨c :: first, groups, cut.extend_first full c, ?_⟩
        rw [grouped, if_neg fun both => full both.1, text, List.intercalate_cons_cons_left]

theorem filter_grouped {digits : List Char} (plain : ∀ c ∈ digits, c ≠ ',') :
    (grouped digits).filter (· ≠ ',') = digits := by
  induction digits with
  | nil => rfl
  | cons c rest ih =>
    obtain ⟨plain_c, plain_rest⟩ := List.forall_mem_cons.mp plain
    rw [grouped]
    split
    · rw [List.filter_cons_of_pos (by simpa using plain_c), List.filter_cons_of_neg (by decide),
        ih plain_rest]
    · rw [List.filter_cons_of_pos (by simpa using plain_c), ih plain_rest]

theorem head?_grouped (digits : List Char) : (grouped digits).head? = digits.head? := by
  cases digits with
  | nil => rfl
  | cons c rest => rw [grouped]; split <;> rfl

theorem getLast?_grouped (digits : List Char) : (grouped digits).getLast? = digits.getLast? := by
  induction digits with
  | nil => rfl
  | cons c rest ih =>
    rw [grouped]
    split
    next comma =>
      obtain ⟨next, rest, rfl⟩ := List.exists_cons_of_ne_nil comma.2
      simp only [List.getLast?_cons, ih, Option.getD_some]
    next => rw [List.getLast?_cons, List.getLast?_cons, ih]

/-! ## Dollars and cents -/

/-- The dollars and the cents of an amount in writing. -/
structure Shows (cents : Nat) (dollars fraction : List Char) : Prop where
  numeral : IsNumeral (dollars.filter (· ≠ ','))
  dollars_value : Nat.ofDigitChars 10 (dollars.filter (· ≠ ',')) 0 = cents / 100
  commas : ∃ first groups, IsCut (dollars.filter (· ≠ ',')) first groups ∧
    dollars = List.intercalate [','] (first :: groups)
  no_outer_comma : dollars.head? ≠ some ',' ∧ dollars.getLast? ≠ some ','
  two_digits : fraction.length = 2 ∧ ∀ c ∈ fraction, c.isDigit = true
  fraction_value : Nat.ofDigitChars 10 fraction 0 = cents % 100

theorem toList_twoDigits {n : Nat} (small : n < 100) :
    (twoDigits n).toList = [Nat.digitChar (n / 10), Nat.digitChar (n % 10)] := by
  rw [twoDigits]
  split
  next one =>
    rw [String.toList_append, Nat.toList_repr, Nat.toDigits_of_lt_base one,
      Nat.div_eq_of_lt one, Nat.mod_eq_of_lt one]
    rfl
  next two =>
    rw [Nat.toList_repr, Nat.toDigits_of_base_le (by decide) (Nat.le_of_not_lt two),
      Nat.toDigits_of_lt_base (by omega)]
    rfl

theorem isDigit_of_mem_twoDigits {n : Nat} (small : n < 100) {c : Char}
    (member : c ∈ (twoDigits n).toList) : c.isDigit = true := by
  rw [toList_twoDigits small, List.mem_pair] at member
  rcases member with rfl | rfl
  · rw [Nat.isDigit_digitChar, decide_eq_true (by omega)]
  · rw [Nat.isDigit_digitChar, decide_eq_true (by omega)]

theorem ofDigitChars_twoDigits {n : Nat} (small : n < 100) :
    Nat.ofDigitChars 10 (twoDigits n).toList 0 = n := by
  have zero : '0'.toNat = 48 := rfl
  rw [toList_twoDigits small, Nat.ofDigitChars_cons, Nat.ofDigitChars_cons, Nat.ofDigitChars_nil,
    Nat.toNat_digitChar_of_lt_ten (by omega), Nat.toNat_digitChar_of_lt_ten (by omega)]
  omega

theorem shows_cents (cents : Nat) :
    Shows cents (grouped (Nat.toDigits 10 (cents / 100))) (twoDigits (cents % 100)).toList := by
  have numeral := isNumeral_toDigits (cents / 100)
  have plain : ∀ c ∈ Nat.toDigits 10 (cents / 100), c ≠ ',' := by
    rintro c member rfl
    exact absurd (numeral.digits _ member) (by decide)
  have whole := filter_grouped plain
  have small : cents % 100 < 100 := Nat.mod_lt _ (by decide)
  exact
    { numeral := by rwa [whole]
      dollars_value := by rw [whole, Nat.ofDigitChars_ten_toDigits]
      commas := by
        rw [whole]
        exact grouped_eq_intercalate numeral.ne_nil
      no_outer_comma := by
        rw [head?_grouped, getLast?_grouped]
        exact ⟨fun comma => plain _ (List.mem_of_head? comma) rfl,
          fun comma => plain _ (List.mem_of_getLast? comma) rfl⟩
      two_digits :=
        ⟨congrArg List.length (toList_twoDigits small), fun _ => isDigit_of_mem_twoDigits small⟩
      fraction_value := ofDigitChars_twoDigits small }

/-- An amount is written with its sign, its whole dollars in groups, and its cents. -/
theorem text_shows_amount (amount : Float) :
    ∃ dollars fraction,
      Shows (Number.roundMagnitude (Number.magnitude amount * 100)) dollars fraction ∧
      text amount = (if Number.less amount 0 then "-" else "") ++
        ("$" ++ String.ofList dollars ++ "." ++ String.ofList fraction) := by
  refine ⟨_, _, shows_cents _, ?_⟩
  rw [text, centsText, Nat.toList_repr, String.ofList_toList]

end Eligibility.Money
