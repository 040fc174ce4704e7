import Eligibility.Number.Binary

/-!
Doubles read from text. `ofText?` accepts the usual spellings of a number,
among them `inf` and `nan`, and rounds to the nearest double. `scaled?` is the
reading of JSON numbers, which takes the digits that fit into 64 bits and
scales them by a power of ten in double arithmetic.
-/

set_option autoImplicit false

namespace Eligibility.Number

def spanDigits (cs : List Char) : List Char × List Char :=
  (cs.takeWhile Char.isDigit, cs.dropWhile Char.isDigit)

def digitValue (c : Char) : Nat := c.toNat - '0'.toNat

def natOfDigits (cs : List Char) : Nat := cs.foldl (fun n c => n * 10 + digitValue c) 0

def hexDigitValue? (c : Char) : Option Nat :=
  if c.isDigit then some (digitValue c)
  else if 'a' ≤ c ∧ c ≤ 'f' then some (c.toNat - 'a'.toNat + 10)
  else if 'A' ≤ c ∧ c ≤ 'F' then some (c.toNat - 'A'.toNat + 10)
  else none

def natOfHex? (cs : List Char) : Option Nat :=
  cs.foldlM (fun n c => (hexDigitValue? c).map fun d => n * 16 + d) 0

def ofDecimal (mantissa : Nat) (exponent : Int) : Float :=
  let top := (Nat.toDigits 10 mantissa).length + exponent
  if mantissa = 0 || top < -400 then 0
  else if 400 < top then infinity
  else Float.ofScientific mantissa (exponent < 0) exponent.natAbs

def exponent? (cs : List Char) : Option Int :=
  let (negative, digits) := match cs with
    | '-' :: rest => (true, rest)
    | '+' :: rest => (false, rest)
    | _ => (false, cs)
  if digits ≠ [] && digits.all Char.isDigit then
    let n : Int := natOfDigits digits
    some (if negative then -n else n)
  else none

def unsigned? (cs : List Char) : Option Float :=
  let (whole, afterWhole) := spanDigits cs
  let (fraction, rest) := match afterWhole with
    | '.' :: more => spanDigits more
    | _ => ([], afterWhole)
  if whole = [] && fraction = [] then none
  else
    let mantissa := natOfDigits (whole ++ fraction)
    match rest with
    | [] => some (ofDecimal mantissa (-(fraction.length : Int)))
    | c :: more =>
      if c = 'e' || c = 'E' then
        (exponent? more).map fun e => ofDecimal mantissa (e - fraction.length)
      else none

def named? (cs : List Char) : Option Float :=
  let word := String.ofList (cs.map Char.toLower)
  if word = "inf" || word = "infinity" then some infinity
  else if word = "nan" then some nan
  else none

def unsignedOrNamed? (cs : List Char) : Option Float := (named? cs).or (unsigned? cs)

def ofText? (s : String) : Option Float :=
  match s.toList with
  | '-' :: rest => (unsignedOrNamed? rest).map fun x => -x
  | '+' :: rest => unsignedOrNamed? rest
  | cs => unsignedOrNamed? cs

/-- The longest run of digits whose number fits into 64 bits, continued from
`n`; gives the number, how many digits it took and the digits left. -/
def fitDigits (n : Nat) : List Char → Nat × Nat × List Char
  | [] => (n, 0, [])
  | c :: rest =>
    let next := n * 10 + digitValue c
    if next < UInt64.size then
      let (value, count, left) := fitDigits next rest
      (value, count + 1, left)
    else (n, 0, c :: rest)

def powerOfTen (n : Nat) : Float := Float.ofScientific 1 false n

/-- Scales by powers of ten that doubles can hold; too large a result is none. -/
def scaleBy (x : Float) (exponent : Int) : Nat → Option Float
  | 0 => some 0
  | fuel + 1 =>
    if 0 ≤ exponent then
      if exponent ≤ 308 then
        let scaled := x * powerOfTen exponent.toNat
        if isFinite scaled then some scaled else none
      else if isNonzero x then none else some x
    else if -308 ≤ exponent then some (x / powerOfTen (-exponent).toNat)
    else if isNonzero x then scaleBy (x / powerOfTen 308) (exponent + 308) fuel
    else some x

/-- The double written as `whole.fraction` times `10 ^ exponent`: a digit after
the first that does not fit into 64 bits is not looked at. -/
def scaled? (negative : Bool) (whole fraction : List Char) (exponent : Int) : Option Float :=
  let (n, _, left) := fitDigits 0 whole
  let (m, taken, _) := fitDigits n fraction
  let start : Int := left.length - taken
  (scaleBy (Float.ofNat m) (start + exponent) 4).map fun x => if negative then -x else x

end Eligibility.Number
