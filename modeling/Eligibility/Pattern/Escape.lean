import Eligibility.Pattern.Input
import Eligibility.Number.Reader

/-!
Escapes of patterns: a backslash and what it makes of the characters after it.
-/

set_option autoImplicit false

namespace Eligibility.Pattern

open Reader

def charOfHex (digits : List Char) : Reader Char := do
  let n ← (Number.natOfHex? digits : Option Nat)
  if digits ≠ [] ∧ n < 0x110000 ∧ ¬(0xD800 ≤ n ∧ n < 0xE000) then return Char.ofNat n
  else failure

def isHexDigit (c : Char) : Bool := (Number.hexDigitValue? c).isSome

/-- A character by its number: in braces, or in a fixed count of digits. Two
digits can only name an ASCII character when classes are those of ASCII. -/
def hexEscape (mode : Mode) (count : Nat) : Reader Char := do
  skipBlanks mode
  if ← accept "\x7b" then
    skipBlanks mode
    let digits ← takeSpaced mode isHexDigit [] (← remaining)
    expect '\x7d'
    skipBlanks mode
    charOfHex digits
  else
    let digits ← takeSpaced mode isHexDigit [] count
    let c ← charOfHex digits
    if digits.length = count && !(mode.ascii && count = 2 && 0x80 ≤ c.toNat) then return c
    else failure

inductive Escape where
  | char (c : Char)
  | set (set : CharSet)
  | anchor (place : Anchor)

def asciiSet (ranges : List (Char × Char)) : CharSet :=
  .ofRanges (ranges.map fun range => (range.1.toNat, range.2.toNat))

def digits (mode : Mode) : CharSet := if mode.ascii then asciiSet [('0', '9')] else .digit

def blanks (mode : Mode) : CharSet :=
  if mode.ascii then asciiSet [('\t', '\r'), (' ', ' ')] else .space

def letters (mode : Mode) : CharSet :=
  if mode.ascii then asciiSet [('0', '9'), ('A', 'Z'), ('_', '_'), ('a', 'z')] else .word

/-- A set as it may stand in the mode: beside ASCII nothing when classes are
those of ASCII. -/
def Mode.admit (mode : Mode) (set : CharSet) : Reader CharSet :=
  if mode.ascii && !set.isAscii then failure else return set

def sides : List (String × WordSide) :=
  [ ("start", .start), ("end", .finish), ("start-half", .noneBefore), ("end-half", .noneAfter) ]

def isSideChar (c : Char) : Bool := c.isAlpha || c = '-'

/-- The side that braces after `\b` name. Braces that do not begin with a letter
are no name but a count. -/
def wordSide (mode : Mode) : Reader WordSide := do
  let before ← get
  if ← accept "\x7b" then
    skipBlanks mode
    match ← peek with
    | none => failure
    | some c =>
      if isSideChar c then do
        let name ← takeSpaced mode isSideChar [] (← remaining)
        expect '\x7d'
        let (_, side) ← sides.find? (·.1 = String.ofList name)
        return side
      else do
        set before
        return .edge
  else return .edge

def isAsciiMark (c : Char) : Bool :=
  c.toNat < 128 && !c.isAlphanum && c ≠ '<' && c ≠ '>'

def escape (mode : Mode) : Reader Escape := do
  let c ← next
  match c with
  | 'd' => return .set (digits mode)
  | 'D' => return .set (← mode.admit (digits mode).complement)
  | 's' => return .set (blanks mode)
  | 'S' => return .set (← mode.admit (blanks mode).complement)
  | 'w' => return .set (letters mode)
  | 'W' => return .set (← mode.admit (letters mode).complement)
  | 'x' => return .char (← hexEscape mode 2)
  | 'u' => return .char (← hexEscape mode 4)
  | 'U' => return .char (← hexEscape mode 8)
  | 'a' => return .char '\x07'
  | 'f' => return .char '\x0c'
  | 't' => return .char '\t'
  | 'n' => return .char '\n'
  | 'r' => return .char '\r'
  | 'v' => return .char '\x0b'
  | 'A' => return .anchor .textStart
  | 'z' => return .anchor .textEnd
  | 'b' => return .anchor (.word (← wordSide mode) (letters mode))
  | 'B' => return .anchor (.word .noEdge (letters mode))
  | '<' => return .anchor (.word .start (letters mode))
  | '>' => return .anchor (.word .finish (letters mode))
  | c => if isAsciiMark c then return .char c else failure

end Eligibility.Pattern
