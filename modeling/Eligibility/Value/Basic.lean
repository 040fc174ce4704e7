import Eligibility.Number.Decimal
import Eligibility.Number.Reader
import Eligibility.Text.Blank
import Eligibility.Comparison

/-!
The values that rules compute with: their truth, their numeric reading, their
order and equality, and their text.
-/

set_option autoImplicit false

namespace Eligibility

inductive Value where
  | null
  | bool (b : Bool)
  | int (i : Int64)
  | float (x : Float)
  | text (s : String)
  | list (items : List Value)
  deriving Inhabited

namespace Value

def isNull : Value → Bool
  | .null => true
  | _ => false

def isTruthy : Value → Bool
  | .null => false
  | .bool b => b
  | .int i => i != 0
  | .float x => Number.isNonzero x
  | .text s => s != ""
  | .list items => !items.isEmpty

def wordToFloat (i : Int64) : Float := Float.ofInt i.toInt

/-- The value as a number. A text counts when it spells one, white space at
its ends aside. -/
def toFloat? : Value → Option Float
  | .int i => some (wordToFloat i)
  | .float x => some x
  | .text s => Number.ofText? (Text.trim s)
  | _ => none

def toText? : Value → Option String
  | .text s => some s
  | _ => none

def toBool? : Value → Option Bool
  | .bool b => some b
  | _ => none

def toList? : Value → Option (List Value)
  | .list items => some items
  | _ => none

/-- Numbers from here on stay doubles even when they are whole. -/
def wholeBound : Nat := 9000000000000000

def toWord? (x : Float) : Option Int64 := do
  let i ← Number.toInt? x
  if i.natAbs < wholeBound then return Int64.ofInt i else none

def number (x : Float) : Value :=
  match toWord? x with
  | some i => .int i
  | none => .float x

def numericOrder? (a b : Value) : Option Ordering := do
  let x ← toFloat? a
  let y ← toFloat? b
  Number.order? x y

/-- How two values are ordered, if they are comparable. Numbers compare with
numbers and with texts that spell one, and null with nothing. -/
def order? (a b : Value) : Option Ordering :=
  match a, b with
  | .int i, .int j => some (compare i.toInt j.toInt)
  | .bool p, .bool q => some (compare p q)
  | .text s, .text t => some (compareOfLessAndEq s t)
  | .float _, .float _ | .int _, .float _ | .float _, .int _ => numericOrder? a b
  | .text _, .int _ | .text _, .float _ | .int _, .text _ | .float _, .text _ =>
    numericOrder? a b
  | _, _ => none

def compare? (comparison : Comparison) (a b : Value) : Option Bool :=
  (order? a b).map comparison.holds

mutual

/-- Equality that reads texts as numbers where needed: `10`, `10.0` and `"10"`
are equal. Null equals null alone. -/
def looseEq : Value → Value → Bool
  | .null, .null => true
  | .list as, .list bs => looseEqItems as bs
  | a, b => order? a b == some .eq

def looseEqItems : List Value → List Value → Bool
  | [], [] => true
  | a :: as, b :: bs => looseEq a b && looseEqItems as bs
  | _, _ => false

end

mutual

def same : Value → Value → Bool
  | .null, .null => true
  | .bool a, .bool b => a == b
  | .int a, .int b => a == b
  | .float a, .float b => Number.equal a b
  | .text a, .text b => a == b
  | .list as, .list bs => sameItems as bs
  | _, _ => false

def sameItems : List Value → List Value → Bool
  | [], [] => true
  | a :: as, b :: bs => same a b && sameItems as bs
  | _, _ => false

end

mutual

/-- Equality under which integers and doubles are numbers alike, and nothing
else is converted. -/
def strictEq : Value → Value → Bool
  | .int a, .float b => Number.equal (wordToFloat a) b
  | .float a, .int b => Number.equal a (wordToFloat b)
  | .list as, .list bs => strictEqItems as bs
  | a, b => same a b

def strictEqItems : List Value → List Value → Bool
  | [], [] => true
  | a :: as, b :: bs => strictEq a b && strictEqItems as bs
  | _, _ => false

end

def wordText (i : Int64) : String :=
  if i < 0 then "-" ++ Nat.repr i.toInt.natAbs else Nat.repr i.toInt.natAbs

mutual

def display : Value → String
  | .null => "null"
  | .bool b => if b then "true" else "false"
  | .int i => wordText i
  | .float x => Number.plainText x
  | .text s => "\"" ++ s ++ "\""
  | .list items => "[" ++ String.intercalate ", " (displayItems items) ++ "]"

def displayItems : List Value → List String
  | [] => []
  | item :: rest => display item :: displayItems rest

end

mutual

def plainText : Value → String
  | .null => ""
  | .text s => s
  | .list items => String.intercalate "," (plainItems items)
  | other => display other

def plainItems : List Value → List String
  | [] => []
  | item :: rest => plainText item :: plainItems rest

end

end Value

end Eligibility
