import Eligibility.Operator.Registry
import Eligibility.Calendar.Reader
import Eligibility.Text.Case

/-!
The operators that benefit rules share: ranges, tolerances, ages and dates,
membership without regard to case, and counts of true answers. A missing
operand makes a test false.
-/

set_option autoImplicit false

namespace Eligibility.Operator

def arity {α : Type} (expected : Nat) (args : List Value) : Except OperatorProblem α :=
  .error (.arity (Nat.repr expected) args.length)

def toNumber (value : Value) : Except OperatorProblem Float :=
  match value.toFloat? with
  | some x => .ok x
  | none => .error (.notNumber value)

def ofNumbers (test : Float → Float → Float → Bool) : Operator
  | [a, b, c] =>
    if a.isNull || b.isNull || c.isNull then .ok (.bool false)
    else do
      let x ← toNumber a
      let y ← toNumber b
      let z ← toNumber c
      return .bool (test x y z)
  | args => arity 3 args

def between : Operator :=
  ofNumbers fun value low high => Number.atMost low value && Number.atMost value high

/-- Value, target and percentage: the value is off by at most that part of the
target. -/
def withinPercent : Operator :=
  ofNumbers fun value target percent =>
    Number.atMost (Number.magnitude (value - target)) (target * percent / 100)

def toMoment (value : Value) : Except OperatorProblem Moment :=
  match value with
  | .text s =>
    match Moment.ofText? (Text.trim s) with
    | some moment => .ok moment
    | none => .error (.unreadableDate (Text.trim s))
  | other => .error (.notDate other)

def ageFromBirth (now : Moment) : Operator
  | [.null] => .ok .null
  | [value] => do
    let birth ← toMoment value
    return .int (Int64.ofInt (birth.date.wholeYears now.date))
  | args => arity 1 args

def ofMoment (test : Moment → Bool) : Operator
  | [.null] => .ok (.bool false)
  | [value] => do
    let moment ← toMoment value
    return .bool (test moment)
  | args => arity 1 args

def dateInPast (now : Moment) : Operator := ofMoment fun moment => moment.before now

def dateInFuture (now : Moment) : Operator := ofMoment fun moment => now.before moment

def lowerText (value : Value) : String := Text.lowercase value.plainText

/-- A value and a list of candidates, compared as texts without regard to case. -/
def matchesAny : Operator
  | [value, candidates] =>
    if value.isNull || candidates.isNull then .ok (.bool false)
    else
      match candidates with
      | .list items => .ok (.bool (items.any fun item => lowerText item == lowerText value))
      | other => .error (.notCandidates other)
  | args => arity 2 args

def itemsOf? : List Value → Except OperatorProblem (Option (List Value))
  | [.null] => .ok none
  | [.list items] => .ok (some items)
  | [other] => .error (.notList other)
  | args => arity 1 args

/-- A count as a word, held at the largest one. -/
def wordOfCount (count : Nat) : Int64 := Int64.ofNat (min count 0x7FFFFFFFFFFFFFFF)

def countTrue : Operator := fun args => do
  let items? ← itemsOf? args
  return .int (wordOfCount ((items?.getD []).countP Value.isTruthy))

def allTrue : Operator := fun args => do
  match ← itemsOf? args with
  | some items => return .bool (items.all Value.isTruthy)
  | none => return .bool false

def anyTrue : Operator := fun args => do
  match ← itemsOf? args with
  | some items => return .bool (items.any Value.isTruthy)
  | none => return .bool false

def shared (now : Moment) : List (String × Operator) :=
  [ ("between", between),
    ("within_percent", withinPercent),
    ("age_from_dob", ageFromBirth now),
    ("date_in_past", dateInPast now),
    ("date_in_future", dateInFuture now),
    ("matches_any", matchesAny),
    ("count_true", countTrue),
    ("all_true", allTrue),
    ("any_true", anyTrue) ]

end Eligibility.Operator

namespace Eligibility

def Registry.withShared (registry : Registry) (now : Moment) : Registry :=
  registry.registerMissing (Operator.shared now)

end Eligibility
