import Mathlib.Data.Prod.Lex
import Eligibility.Calendar.Reader

/-!
Age in whole years. Dates stand in the order of year, month and day, and there a
birthday has its place in every year: one of 29 February stands in a common year
between 28 February and 1 March. The main fact is that so many years are complete
as birthdays have been reached; what age does as either date moves follows from it.
-/

set_option autoImplicit false

namespace Eligibility.Date

/-! ## The order of dates -/

/-- A year, a month and a day, which need not be a date of the calendar. -/
abbrev Place := Int ×ₗ Nat ×ₗ Nat

def place (date : Date) : Place := toLex (date.year, toLex (date.month, date.day))

theorem place_injective : Function.Injective place := by
  intro a b same
  obtain ⟨year, month, day, _, _⟩ := a
  obtain ⟨_, _, _, _, _⟩ := b
  cases same
  rfl

instance : LinearOrder Date := LinearOrder.lift' place place_injective

theorem dayBefore_iff (a b : Date) :
    a.dayBefore b = true ↔ toLex (a.month, a.day) < toLex (b.month, b.day) := by
  simp [dayBefore, Prod.Lex.toLex_lt_toLex]

theorem before_iff_lt (a b : Date) : a.before b = true ↔ a < b := by
  change _ ↔ a.place < b.place
  rw [place, place, Prod.Lex.toLex_lt_toLex, ← dayBefore_iff]
  simp [before]

/-! ## Birthdays -/

variable {birth elder today later : Date}

def birthday (birth : Date) (year : Int) : Place := toLex (year, toLex (birth.month, birth.day))

theorem birthday_le_place_iff (year : Int) :
    birth.birthday year ≤ today.place ↔
      year < today.year ∨ year = today.year ∧ today.dayBefore birth = false := by
  rw [birthday, place, Prod.Lex.toLex_le_toLex, ← not_lt, ← dayBefore_iff, Bool.not_eq_true]

theorem wholeYears_eq (birth today : Date) :
    birth.wholeYears today =
      today.year - birth.year - (if today.dayBefore birth = true then 1 else 0) := by
  unfold wholeYears
  split
  · rfl
  · exact (Int.sub_zero _).symm

theorem birthday_le_place_iff_le_wholeYears (n : Int) :
    birth.birthday (birth.year + n) ≤ today.place ↔ n ≤ birth.wholeYears today := by
  rw [birthday_le_place_iff, wholeYears_eq]
  cases today.dayBefore birth with
  | true =>
    simp only [Bool.true_eq_false, and_false, or_false, if_true]
    omega
  | false =>
    simp only [Bool.false_eq_true, and_true, if_false]
    omega

theorem wholeYears_eq_iff (n : Int) :
    birth.wholeYears today = n ↔
      birth.birthday (birth.year + n) ≤ today.place ∧
        today.place < birth.birthday (birth.year + n + 1) := by
  rw [← not_le, Int.add_assoc, birthday_le_place_iff_le_wholeYears,
    birthday_le_place_iff_le_wholeYears]
  omega

theorem wholeYears_nonneg_iff : 0 ≤ birth.wholeYears today ↔ birth ≤ today := by
  rw [← birthday_le_place_iff_le_wholeYears, Int.add_zero]
  rfl

theorem wholeYears_mono (passes : today ≤ later) :
    birth.wholeYears today ≤ birth.wholeYears later := by
  rw [← birthday_le_place_iff_le_wholeYears]
  exact (birthday_le_place_iff_le_wholeYears _).mpr le_rfl |>.trans passes

theorem birthday_mono (first : elder ≤ birth) (n : Int) :
    elder.birthday (elder.year + n) ≤ birth.birthday (birth.year + n) := by
  change elder.place ≤ birth.place at first
  rw [place, place, Prod.Lex.toLex_le_toLex] at first
  rw [birthday, birthday, Prod.Lex.toLex_le_toLex]
  exact first.imp (fun earlier => by simpa using earlier) (fun same => by simpa using same)

theorem wholeYears_anti (first : elder ≤ birth) :
    birth.wholeYears today ≤ elder.wholeYears today := by
  rw [← birthday_le_place_iff_le_wholeYears]
  exact (birthday_mono first _).trans ((birthday_le_place_iff_le_wholeYears _).mpr le_rfl)

theorem wholeYears_of_leap_day (month : birth.month = 2) (day : birth.day = 29)
    (common : isLeapYear today.year = false) :
    birth.wholeYears today =
      today.year - birth.year - (if 3 ≤ today.month then 0 else 1) := by
  have short : today.month = 2 → today.day ≤ 28 := by
    intro february
    have bounds := today.day_bounds.2
    simpa [daysInMonth, february, common] using bounds
  have behind : today.dayBefore birth = true ↔ ¬ 3 ≤ today.month := by
    simp only [dayBefore, month, day, Bool.or_eq_true, Bool.and_eq_true, decide_eq_true_eq]
    omega
  by_cases march : 3 ≤ today.month <;> simp [wholeYears_eq, behind, march]

theorem toInt_ofInt_wholeYears (born : Moment.readableYear birth.year = true)
    (now : Moment.readableYear today.year = true) :
    (Int64.ofInt (birth.wholeYears today)).toInt = birth.wholeYears today := by
  simp only [Moment.readableYear, Bool.and_eq_true, decide_eq_true_eq] at born now
  have bounds : -2 ^ 63 ≤ birth.wholeYears today ∧ birth.wholeYears today < 2 ^ 63 := by
    rw [wholeYears_eq]
    split <;> omega
  exact Int64.toInt_ofInt_of_le bounds.1 bounds.2

/-- The age of someone is the one number of years whose birthday has been reached and
the next one has not, in the order of dates that the program compares them by. It is
negative before birth, and grows as the day moves on and as the birth moves back. -/
theorem wholeYears_counts_birthdays (birth today other : Date) :
    (∀ n : Int, birth.wholeYears today = n ↔
      birth.birthday (birth.year + n) ≤ today.place ∧
        today.place < birth.birthday (birth.year + n + 1)) ∧
    (0 ≤ birth.wholeYears today ↔ birth ≤ today) ∧
    (today ≤ other → birth.wholeYears today ≤ birth.wholeYears other) ∧
    (birth ≤ other → other.wholeYears today ≤ birth.wholeYears today) ∧
    (birth ≤ today ↔ today.before birth = false) ∧
    (birth.month = 2 → birth.day = 29 → isLeapYear today.year = false →
      birth.wholeYears today =
        today.year - birth.year - (if 3 ≤ today.month then 0 else 1)) ∧
    (Moment.readableYear birth.year = true → Moment.readableYear today.year = true →
      (Int64.ofInt (birth.wholeYears today)).toInt = birth.wholeYears today) := by
  refine ⟨wholeYears_eq_iff, wholeYears_nonneg_iff, wholeYears_mono, wholeYears_anti, ?_,
    wholeYears_of_leap_day, toInt_ofInt_wholeYears⟩
  rw [← not_lt, ← before_iff_lt, Bool.not_eq_true]

/-- Someone born on 29 February 2004 turns 22 on 1 March 2026, the day after the last
day at 21. Someone born on that 1 March is not of an age on that last day. -/
theorem wholeYears_counts_birthdays_of_leap_day :
    let birth : Date := ⟨2004, 2, 29, by decide, by decide⟩
    let last : Date := ⟨2026, 2, 28, by decide, by decide⟩
    let first : Date := ⟨2026, 3, 1, by decide, by decide⟩
    birth.wholeYears last = 21 ∧ birth.wholeYears first = 22 ∧
    last ≤ first ∧ birth.wholeYears last ≤ birth.wholeYears first ∧
    birth ≤ first ∧ first.wholeYears last ≤ birth.wholeYears last ∧
    ¬ 0 ≤ first.wholeYears last := by
  intro birth last first
  have ordered : last ≤ first := by decide
  have elder : birth ≤ first := by decide
  obtain ⟨_, _, moves, back, _, leaps, _⟩ := wholeYears_counts_birthdays birth last first
  obtain ⟨turns, _⟩ := wholeYears_counts_birthdays birth first first
  obtain ⟨_, unborn, _⟩ := wholeYears_counts_birthdays first last first
  refine ⟨leaps rfl rfl rfl, (turns 22).mpr (by decide), ordered, moves ordered, elder,
    back elder, ?_⟩
  rw [unborn]
  decide

end Eligibility.Date
