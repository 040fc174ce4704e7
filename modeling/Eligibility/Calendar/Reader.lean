import Eligibility.Calendar.Date
import Eligibility.Number.Reader
import Eligibility.Text.Blank

/-!
Moments read from text, in four written forms: a full time stamp with its
distance from universal time, `year-month-dayThour:minute:second`,
`year-month-day` and `month/day/year`. The last three allow white space before
every number and fewer digits than usual. A time stamp gives the moment in
universal time; a date alone gives its midnight.
-/

set_option autoImplicit false

namespace Eligibility.Moment

open Eligibility.Number (digitValue natOfDigits spanDigits)

abbrev Reader (α : Type) := StateT (List Char) Option α

namespace Reader

def char (c : Char) : Reader Unit := fun cs =>
  match cs with
  | d :: rest => if d = c then some ((), rest) else none
  | [] => none

def oneOf (choices : List Char) : Reader Char := fun cs =>
  match cs with
  | d :: rest => if d ∈ choices then some (d, rest) else none
  | [] => none

/-- Between `fewest` and `most` digits, as many as there are. -/
def number (fewest most : Nat) : Reader Nat := fun cs =>
  let digits := (cs.take most).takeWhile Char.isDigit
  if fewest ≤ digits.length then some (natOfDigits digits, cs.drop digits.length) else none

def skipBlanks : Reader Unit := fun cs => some ((), cs.dropWhile Text.isBlank)

def field (most : Nat) : Reader Nat := do
  skipBlanks
  number 1 most

/-- A year: at most four digits, or any number of digits after a sign. -/
def year : Reader Int := do
  skipBlanks
  let cs ← get
  match cs with
  | '-' :: _ => do
    char '-'
    return -((← number 1 cs.length) : Int)
  | '+' :: _ => do
    char '+'
    return (← number 1 cs.length)
  | _ => return (← number 1 4)

def atEnd : Reader Unit := fun cs => if cs = [] then some ((), []) else none

def run {α : Type} (reader : Reader α) (s : String) : Option α :=
  (StateT.run (do let a ← reader; atEnd; return a) s.toList).map Prod.fst

end Reader

open Reader

/-- A fraction of a second in nanoseconds; digits after the ninth are dropped. -/
def fraction : Reader Nat := fun cs =>
  match cs with
  | '.' :: rest =>
    let (digits, after) := spanDigits rest
    if digits = [] then none
    else
      let kept := digits.take 9
      some (natOfDigits (kept ++ List.replicate (9 - kept.length) '0'), after)
  | _ => some (0, cs)

/-- Seconds ahead of universal time: `Z`, or a sign, hours and minutes. -/
def offset : Reader Int := do
  let sign ← oneOf ['Z', 'z', '+', '-', '−']
  if sign = 'Z' ∨ sign = 'z' then return 0
  else
    let hours ← number 2 2
    char ':'
    let minutes ← number 2 2
    if 24 ≤ hours ∨ 60 ≤ minutes then failure
    else
      let seconds : Int := ((hours * 60 + minutes) * 60 : Nat)
      return if sign = '+' then seconds else -seconds

def timeStamp : Reader Moment := do
  let year ← number 4 4
  char '-'
  let month ← number 2 2
  char '-'
  let day ← number 2 2
  let _ ← oneOf ['T', 't', ' ']
  let hour ← number 2 2
  char ':'
  let minute ← number 2 2
  char ':'
  let second ← number 2 2
  let nanosecond ← fraction
  let seconds ← offset
  let date ← (Date.ofParts? year month day : Option Date)
  let moment ← (Moment.ofTime? date hour minute second nanosecond : Option Moment)
  (moment.minus? seconds : Option Moment)

def readableYear (year : Int) : Bool := -262143 ≤ year && year ≤ 262142

def dateOf? (year : Int) (month day : Nat) : Option Date :=
  if readableYear year then Date.ofParts? year month day else none

def dashedDate : Reader Date := do
  let year ← year
  char '-'
  let month ← field 2
  char '-'
  let day ← field 2
  (dateOf? year month day : Option Date)

def localTime : Reader Moment := do
  let date ← dashedDate
  char 'T'
  let hour ← field 2
  char ':'
  let minute ← field 2
  char ':'
  let second ← field 2
  (Moment.ofTime? date hour minute second 0 : Option Moment)

def slashedDate : Reader Date := do
  let month ← field 2
  char '/'
  let day ← field 2
  char '/'
  let year ← year
  (dateOf? year month day : Option Date)

def ofText? (s : String) : Option Moment :=
  (timeStamp.run s).or <|
    (localTime.run s).or <|
      ((dashedDate.run s).map midnight).or ((slashedDate.run s).map midnight)

end Eligibility.Moment
