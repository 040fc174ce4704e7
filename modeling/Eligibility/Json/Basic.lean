import Eligibility.Number.Decimal
import Eligibility.Keyed

/-!
JSON values. A number keeps the form it was written in: a natural number, a
negative integer, or a finite double. An object holds its fields in ascending
order of the keys.
-/

set_option autoImplicit false

namespace Eligibility

namespace Json

inductive Numeral where
  | natural (n : UInt64)
  | negative (i : Int64) (below : i < 0)
  | real (x : Float) (finite : Number.isFinite x = true)

namespace Numeral

def ofInt64 (i : Int64) : Numeral :=
  if below : i < 0 then .negative i below else .natural i.toUInt64

def ofFloat? (x : Float) : Option Numeral :=
  if finite : Number.isFinite x = true then some (.real x finite) else none

def toInt64? : Numeral → Option Int64
  | .natural n => if n.toNat < 0x8000000000000000 then some n.toInt64 else none
  | .negative i _ => some i
  | .real .. => none

def toFloat : Numeral → Float
  | .natural n => Float.ofNat n.toNat
  | .negative i _ => Float.ofInt i.toInt
  | .real x _ => x

theorem toInt_eq_toNat_toUInt64 {i : Int64} (notBelow : ¬ i < 0) :
    i.toInt = i.toUInt64.toNat := by
  have reading := BitVec.toInt_eq_toNat_cond i.toBitVec
  rw [Int64.toInt_toBitVec, Int64.toNat_toBitVec] at reading
  rw [Int64.lt_iff_toInt_lt, Int64.toInt_zero] at notBelow
  have bound := i.toUInt64.toNat_lt
  omega

theorem toInt64?_ofInt64 (i : Int64) : (ofInt64 i).toInt64? = some i := by
  unfold ofInt64
  split
  · rfl
  · rename_i notBelow
    have small : i.toUInt64.toNat < 0x8000000000000000 := by
      have reading := toInt_eq_toNat_toUInt64 notBelow
      have bound := i.toInt_lt
      omega
    simp [toInt64?, small, Int64.toInt64_toUInt64]

def text : Numeral → String
  | .natural n => Nat.repr n.toNat
  | .negative i _ => "-" ++ Nat.repr i.toInt.natAbs
  | .real x _ => Number.jsonText x

end Numeral

end Json

inductive Json where
  | null
  | bool (b : Bool)
  | number (n : Json.Numeral)
  | text (s : String)
  | array (items : List Json)
  | object (fields : List (String × Json))
  deriving Inhabited

namespace Json

def ofFields (fields : List (String × Json)) : Json := .object (Keyed.ofList fields)

def ofInt64 (i : Int64) : Json := .number (.ofInt64 i)

def ofNat (n : Nat) : Json := .number (.natural (UInt64.ofNat n))

def ofFloat (x : Float) : Json :=
  match Numeral.ofFloat? x with
  | some n => .number n
  | none => .null

def kind : Json → String
  | .null => "null"
  | .bool _ => "a boolean"
  | .number _ => "a number"
  | .text _ => "a string"
  | .array _ => "an array"
  | .object _ => "an object"

def isNull : Json → Bool
  | .null => true
  | _ => false

end Json

end Eligibility
