/-!
Double-precision numbers taken apart exactly. `read` gives sign, significand
and exponent, `rank?` an integer that orders every double but NaN, and the
operations that must not round are carried out on natural numbers.
-/

set_option autoImplicit false

namespace Eligibility.Number

/-- A finite double is plus or minus `significand * 2 ^ exponent`. -/
inductive Reading where
  | nan
  | infinite (negative : Bool)
  | finite (negative : Bool) (significand : Nat) (exponent : Int)
  deriving DecidableEq, Repr

/-- The bit above the fraction of a double, `2 ^ 52`. -/
def leadingBit : Nat := 0x10000000000000

/-- The bit of the sign, `2 ^ 63`. -/
def signBit : Nat := 0x8000000000000000

def read (x : Float) : Reading :=
  let bits := x.toBits.toNat
  let negative := decide (signBit ≤ bits)
  let biased : Nat := bits / leadingBit % 2048
  let fraction : Nat := bits % leadingBit
  if biased = 2047 then
    if fraction = 0 then .infinite negative else .nan
  else if biased = 0 then .finite negative fraction (-1074)
  else .finite negative (fraction + leadingBit) (biased - 1075)

/-- Orders the doubles as the numbers they stand for; both zeros have rank 0
and NaN has none. -/
def rank? (x : Float) : Option Int :=
  let bits := x.toBits.toNat
  let magnitude : Nat := bits % signBit
  if magnitude ≤ 0x7FF0000000000000 then
    some (if bits < signBit then magnitude else -magnitude)
  else none

def order? (x y : Float) : Option Ordering := do
  let a ← rank? x
  let b ← rank? y
  return compare a b

def equal (x y : Float) : Bool := order? x y == some .eq

def less (x y : Float) : Bool := order? x y == some .lt

def atMost (x y : Float) : Bool := less x y || equal x y

def isNaN (x : Float) : Bool := (rank? x).isNone

def isFinite (x : Float) : Bool :=
  match read x with
  | .finite .. => true
  | _ => false

def isNonzero (x : Float) : Bool :=
  match rank? x with
  | some rank => rank != 0
  | none => false

def infinity : Float := Float.ofBits 0x7FF0000000000000

def nan : Float := Float.ofBits 0x7FF8000000000000

def magnitude (x : Float) : Float := if less x 0 then -x else x

/-- The smaller of two; NaN gives way to the other. -/
def lesser (x y : Float) : Float :=
  match order? x y with
  | some .gt => y
  | some _ => x
  | none => if isNaN x then y else x

def greater (x y : Float) : Float :=
  match order? x y with
  | some .lt => y
  | some _ => x
  | none => if isNaN x then y else x

def toInt? (x : Float) : Option Int :=
  match read x with
  | .finite negative significand exponent =>
    let magnitude? : Option Nat :=
      if 0 ≤ exponent then some (significand <<< exponent.toNat)
      else
        let unit := 1 <<< (-exponent).toNat
        if significand % unit = 0 then some (significand / unit) else none
    magnitude?.map fun magnitude => if negative then -(magnitude : Int) else magnitude
  | _ => none

/-- The absolute value rounded to an integer, a half going up, and held below
`2 ^ 64`; NaN counts as zero. -/
def roundMagnitude (x : Float) : Nat :=
  match read x with
  | .nan => 0
  | .infinite _ => UInt64.size - 1
  | .finite _ significand exponent =>
    let rounded :=
      if 0 ≤ exponent then significand <<< exponent.toNat
      else
        let unit := 1 <<< (-exponent).toNat
        (2 * significand + unit) / (2 * unit)
    min rounded (UInt64.size - 1)

/-- Plus or minus `significand * 2 ^ exponent`, for a significand below
`2 ^ 53` and an exponent from -1074 up to where doubles end. -/
def ofParts (negative : Bool) (significand : Nat) (exponent : Int) : Float :=
  let room := (exponent + 1074).toNat
  let shift := min (52 - significand.log2) room
  let scaled := significand <<< shift
  let biased := if scaled < leadingBit then 0 else (exponent - shift + 1075).toNat
  let sign := if negative then signBit else 0
  Float.ofBits (UInt64.ofNat (sign + biased * leadingBit + scaled % leadingBit))

/-- The exact remainder of a division that is cut off toward zero. It has the
sign of the dividend. -/
def remainder (x y : Float) : Float :=
  match read x, read y with
  | .finite negative p d, .finite _ q e =>
    if q = 0 then nan
    else
      let low := min d e
      let left := p <<< (d - low).toNat
      let right := q <<< (e - low).toNat
      ofParts negative (left % right) low
  | .finite .., .infinite _ => x
  | _, _ => nan

end Eligibility.Number
