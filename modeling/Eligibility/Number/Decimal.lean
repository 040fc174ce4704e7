import Eligibility.Number.Binary

/-!
Decimal texts of doubles. `Shortest.digits` finds the fewest digits that read
back as the same double; a `Layout` says how digits are written down.
-/

set_option autoImplicit false

namespace Eligibility.Number

/-- Which of two equally near decimals stands for a value: the one with an even
last digit, or the greater. -/
inductive Tie where
  | even
  | upward
  deriving DecidableEq, Repr

def Tie.keeps : Tie → Nat → Bool
  | .even, lower => lower % 2 = 0
  | .upward, _ => false

/-- The value `0.d₁d₂… * 10 ^ point`, without zeros at the end. -/
structure Digits where
  digits : List Nat
  point : Int
  deriving DecidableEq, Repr

namespace Shortest

structure Ratio where
  num : Nat
  den : Nat

def scaleTwo (n : Nat) (exponent : Int) : Ratio :=
  if 0 ≤ exponent then ⟨n <<< exponent.toNat, 1⟩ else ⟨n, 1 <<< (-exponent).toNat⟩

def tenTo (n : Nat) : Nat := Nat.pow 10 n

def scaleTen (n : Nat) (exponent : Int) : Ratio :=
  if 0 ≤ exponent then ⟨n * tenTo exponent.toNat, 1⟩ else ⟨n, tenTo (-exponent).toNat⟩

def Ratio.lt (a b : Ratio) : Bool := a.num * b.den < b.num * a.den

def Ratio.le (a b : Ratio) : Bool := a.num * b.den ≤ b.num * a.den

/-- The reals that round to `significand * 2 ^ exponent`, in quarters of a
unit; the ends belong to it when the significand is even. -/
structure Neighbourhood where
  low : Ratio
  value : Ratio
  high : Ratio
  closed : Bool

def neighbourhood (significand : Nat) (exponent : Int) : Neighbourhood :=
  let below := if significand = leadingBit ∧ -1074 < exponent then 1 else 2
  { low := scaleTwo (4 * significand - below) (exponent - 2)
    value := scaleTwo (4 * significand) (exponent - 2)
    high := scaleTwo (4 * significand + 2) (exponent - 2)
    closed := significand % 2 = 0 }

def Neighbourhood.holds (near : Neighbourhood) (x : Ratio) : Bool :=
  if near.closed then near.low.le x && x.le near.high
  else near.low.lt x && x.lt near.high

/-- The power of ten just above a value: `10 ^ (p - 1) ≤ value < 10 ^ p`. -/
def magnitude (value : Ratio) : Int :=
  let whole := value.num / value.den
  if 0 < whole then (Nat.toDigits 10 whole).length
  else descend 400 value.num
where
  /-- Counts the zeros after the point. -/
  descend : Nat → Nat → Int
    | 0, _ => 0
    | fuel + 1, num =>
      if value.den ≤ num * 10 then 0 else descend fuel (num * 10) - 1

/-- The point of the grid `10 ^ step` nearest to the value, among its two
neighbours there that lie in the neighbourhood. -/
def onGrid? (tie : Tie) (near : Neighbourhood) (step : Int) : Option Nat :=
  let unit := scaleTen 1 step
  let num := near.value.num * unit.den
  let den := near.value.den * unit.num
  let lower := num / den
  let inLower := near.holds (scaleTen lower step)
  let inUpper := near.holds (scaleTen (lower + 1) step)
  let rest := num % den
  match inLower, inUpper with
  | true, true =>
    if 2 * rest < den || (2 * rest = den && tie.keeps lower) then some lower
    else some (lower + 1)
  | true, false => some lower
  | false, true => some (lower + 1)
  | false, false => none

def search (tie : Tie) (near : Neighbourhood) (top : Int) : List Nat → Option (Nat × Int)
  | [] => none
  | count :: finer =>
    match onGrid? tie near (top - count) with
    | some point => some (point, top - count)
    | none => search tie near top finer

def digitsOf (n : Nat) : List Nat :=
  (Nat.toDigits 10 n).map fun c => c.toNat - '0'.toNat

def stripZeros (digits : List Nat) : List Nat :=
  (digits.reverse.dropWhile (· == 0)).reverse

/-- The fewest digits that read back, and of those the nearest to the value. -/
def digits (tie : Tie) (significand : Nat) (exponent : Int) : Digits :=
  if significand = 0 then ⟨[], 0⟩
  else
    let near := neighbourhood significand exponent
    match search tie near (magnitude near.value) ((List.range 17).map (· + 1)) with
    | some (point, step) =>
      let written := digitsOf point
      ⟨stripZeros written, written.length + step⟩
    | none => ⟨[], 0⟩

end Shortest

/-- How a number is written: which way ties of digits go, whether whole numbers
show a fraction, and the decimal exponents written without an exponent mark. -/
structure Layout where
  tie : Tie
  showsFraction : Bool
  positional : Int → Bool
  nan : String
  infinite : String

def digitText (digits : List Nat) : String := String.join (digits.map Nat.repr)

def zeros (n : Nat) : String := String.ofList (List.replicate n '0')

def positionalText (showsFraction : Bool) (d : Digits) : String :=
  let count := d.digits.length
  let tail := if showsFraction then ".0" else ""
  if d.digits = [] then "0" ++ tail
  else if d.point ≤ 0 then "0." ++ zeros (-d.point).toNat ++ digitText d.digits
  else
    let whole := d.point.toNat
    if count ≤ whole then digitText d.digits ++ zeros (whole - count) ++ tail
    else digitText (d.digits.take whole) ++ "." ++ digitText (d.digits.drop whole)

def exponentText (d : Digits) : String :=
  let exponent := d.point - 1
  let mark := if exponent < 0 then "e-" else "e+"
  let fraction := d.digits.drop 1
  digitText (d.digits.take 1) ++ (if fraction = [] then "" else "." ++ digitText fraction) ++
    mark ++ Nat.repr exponent.natAbs

def Layout.write (layout : Layout) (x : Float) : String :=
  match read x with
  | .nan => layout.nan
  | .infinite negative => (if negative then "-" else "") ++ layout.infinite
  | .finite negative significand exponent =>
    let d := Shortest.digits layout.tie significand exponent
    (if negative then "-" else "") ++
      if d.digits = [] || layout.positional (d.point - 1) then
        positionalText layout.showsFraction d
      else exponentText d

/-- Numbers in running text: never an exponent, no fraction when whole, and the
greater of two equally near decimals. -/
def plain : Layout := ⟨.upward, false, fun _ => true, "NaN", "inf"⟩

/-- Numbers in JSON: a fraction always, and an exponent below `10 ^ -5` and
from `10 ^ 16` on; of two equally near decimals the one that ends evenly. JSON
writes what is not finite as `null`, see `jsonText`. -/
def compact : Layout :=
  ⟨.even, true, fun exponent => -5 ≤ exponent && exponent < 16, "null", "null"⟩

def plainText (x : Float) : String := plain.write x

def jsonText (x : Float) : String := if isFinite x then compact.write x else "null"

end Eligibility.Number
