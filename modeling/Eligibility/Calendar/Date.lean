/-!
Calendar dates and moments of the proleptic Gregorian calendar. Age counts a
birthday of 29 February as reached on 1 March of a common year.
-/

set_option autoImplicit false

namespace Eligibility

def isLeapYear (year : Int) : Bool := year % 4 = 0 && (year % 100 ≠ 0 || year % 400 = 0)

def daysInMonth (year : Int) (month : Nat) : Nat :=
  if month = 2 then (if isLeapYear year then 29 else 28)
  else if month = 4 ∨ month = 6 ∨ month = 9 ∨ month = 11 then 30
  else 31

structure Date where
  year : Int
  month : Nat
  day : Nat
  month_bounds : 1 ≤ month ∧ month ≤ 12
  day_bounds : 1 ≤ day ∧ day ≤ daysInMonth year month
  deriving DecidableEq, Repr

namespace Date

def ofParts? (year : Int) (month day : Nat) : Option Date :=
  if months : 1 ≤ month ∧ month ≤ 12 then
    if days : 1 ≤ day ∧ day ≤ daysInMonth year month then some ⟨year, month, day, months, days⟩
    else none
  else none

def dayBefore (a b : Date) : Bool := a.month < b.month || (a.month = b.month && a.day < b.day)

def before (a b : Date) : Bool := a.year < b.year || (a.year = b.year && a.dayBefore b)

def next? (date : Date) : Option Date :=
  (ofParts? date.year date.month (date.day + 1)).or <|
    (ofParts? date.year (date.month + 1) 1).or (ofParts? (date.year + 1) 1 1)

def previous? (date : Date) : Option Date :=
  if 1 < date.day then ofParts? date.year date.month (date.day - 1)
  else if 1 < date.month then
    ofParts? date.year (date.month - 1) (daysInMonth date.year (date.month - 1))
  else ofParts? (date.year - 1) 12 31

/-- Whole years from one date to another: one less when the day of the year is
still to come. -/
def wholeYears (birth today : Date) : Int :=
  let years := today.year - birth.year
  if today.dayBefore birth then years - 1 else years

end Date

/-- A date and a time of day. A leap second stands within the second before
it, with a fraction of a whole second or more. -/
structure Moment where
  date : Date
  second : Nat
  nanosecond : Nat
  deriving DecidableEq, Repr

namespace Moment

def secondsPerDay : Nat := 86400

def midnight (date : Date) : Moment := ⟨date, 0, 0⟩

/-- A time of day, in which second 60 is a leap second. -/
def ofTime? (date : Date) (hour minute second nanosecond : Nat) : Option Moment :=
  if hour < 24 ∧ minute < 60 ∧ second ≤ 60 then
    let start := (hour * 60 + minute) * 60
    if second = 60 then some ⟨date, start + 59, nanosecond + 1000000000⟩
    else some ⟨date, start + second, nanosecond⟩
  else none

def before (a b : Moment) : Bool :=
  a.date.before b.date ||
    (a.date = b.date && (a.second < b.second ||
      (a.second = b.second && a.nanosecond < b.nanosecond)))

def minus? (moment : Moment) (seconds : Int) : Option Moment :=
  let second := (moment.second : Int) - seconds
  if second < 0 then
    moment.date.previous?.map fun date =>
      ⟨date, (second + secondsPerDay).toNat, moment.nanosecond⟩
  else if (secondsPerDay : Int) ≤ second then
    moment.date.next?.map fun date =>
      ⟨date, (second - secondsPerDay).toNat, moment.nanosecond⟩
  else some { moment with second := second.toNat }

end Moment

end Eligibility
