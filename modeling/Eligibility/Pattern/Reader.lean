import Eligibility.Pattern.Bracket
import Eligibility.Pattern.Size
import Eligibility.Pattern.Spans
import Eligibility.Text.LetterTable

/-!
Patterns in the usual notation of regular expressions: characters and classes
of them, anchors, groups, alternatives, repetitions, and modes such as `(?i)`.
A text that is no pattern, nests too deep or makes too large an automaton reads
as nothing.
-/

set_option autoImplicit false

namespace Eligibility.Pattern

open Reader

def deepest : Nat := 250

def count (mode : Mode) : Reader Nat := do
  let _ ← takeWhile Text.isBlank
  let digits ← takeSpaced mode Char.isDigit [] (← remaining)
  let _ ← takeWhile Text.isBlank
  skipBlanks mode
  let n := Number.natOfDigits digits
  if digits ≠ [] && n < UInt32.size then return n else failure

def bounds (mode : Mode) : Reader (Nat × Option Nat) := do
  skipBlanks mode
  let least ← count mode
  let most ←
    if ← accept "," then do
      skipBlanks mode
      match ← peek with
      | some '\x7d' => pure none
      | _ => some <$> count mode
    else pure (some least)
  expect '\x7d'
  skipBlanks mode
  if most.all (least ≤ ·) then return (least, most) else failure

/-- The letters of modes, up to `:` or `)`. A letter comes at most once, and a
hyphen turns the letters after it off. -/
def modeLetters (seen : List Char) (off : Bool) (mode : Mode) : Nat → Reader (Mode × List Char)
  | 0 => failure
  | fuel + 1 => do
    match ← peek with
    | none => failure
    | some c =>
      if c = ':' || c = ')' then
        if seen.head? = some '-' then failure else return (mode, seen)
      else if seen.contains c then failure
      else do
        skip 1
        match c with
        | '-' => modeLetters ('-' :: seen) true mode fuel
        | 'i' => modeLetters (c :: seen) off { mode with anyCase := !off } fuel
        | 'm' => modeLetters (c :: seen) off { mode with lines := !off } fuel
        | 's' => modeLetters (c :: seen) off { mode with dotAll := !off } fuel
        | 'x' => modeLetters (c :: seen) off { mode with verbose := !off } fuel
        | 'R' => modeLetters (c :: seen) off { mode with returns := !off } fuel
        | 'u' => modeLetters (c :: seen) off { mode with ascii := off } fuel
        | 'U' => modeLetters (c :: seen) off mode fuel
        | _ => failure

def isNameStart (c : Char) : Bool := c = '_' || Text.inRanges Text.alphabeticRanges c

def isNameChar (c : Char) : Bool :=
  isNameStart c || c = '.' || c = '[' || c = ']' || Text.inRanges Text.numberRanges c

def groupName : Reader Unit := do
  let name ← takeWhile (· ≠ '>')
  expect '>'
  let input ← get
  let text := String.ofList name
  match name with
  | c :: rest =>
    if isNameStart c && rest.all isNameChar && !input.names.contains text then
      set { input with names := text :: input.names }
    else failure
  | [] => failure

inductive Opening where
  | group (mode : Mode) (capturing : Bool)
  | modes (mode : Mode)

def opening (mode : Mode) : Reader Opening := do
  skipBlanks mode
  if (← startsWith "?=") || (← startsWith "?!") || (← startsWith "?<=") || (← startsWith "?<!") then
    failure
  else if ← accept "?P<" then
    groupName
    return .group mode true
  else if ← accept "?<" then
    groupName
    return .group mode true
  else if ← accept "?" then
    let (inner, seen) ← modeLetters [] false mode (← remaining)
    if ← accept ":" then return .group inner false
    else
      expect ')'
      if seen = [] then failure else return .modes inner
  else return .group mode true

/-- A part of a sequence with the depth of its notation. A change of modes is a
part too, which matches the empty text and cannot be repeated. -/
structure Part where
  pattern : Pattern
  depth : Nat
  repeatable : Bool

namespace Part

def piece (pattern : Pattern) (depth : Nat) : Part := ⟨pattern, depth, true⟩

def modes : Part := ⟨.empty, 0, false⟩

def deepestOf (parts : List Part) : Nat := parts.foldl (fun depth part => max depth part.depth) 0

def sequence (parts : List Part) : Part :=
  piece (sequenceOf (parts.reverse.map (·.pattern)))
    (if parts.length ≤ 1 then deepestOf parts else deepestOf parts + 1)

def either (first : Part) (others : List Part) : Part :=
  piece (eitherOf first.pattern (others.map (·.pattern)))
    (if others = [] then first.depth else deepestOf (first :: others) + 1)

end Part

def dot (mode : Mode) : CharSet :=
  if mode.dotAll then .all
  else if mode.returns then (asciiSet [('\n', '\n'), ('\r', '\r')]).complement
  else (CharSet.single '\n').complement

def lineStart (mode : Mode) : Anchor :=
  if mode.lines then (if mode.returns then .returnLineStart else .lineStart) else .textStart

def lineEnd (mode : Mode) : Anchor :=
  if mode.lines then (if mode.returns then .returnLineEnd else .lineEnd) else .textEnd

def character (mode : Mode) (c : Char) : Pattern := .one (mode.close (.single c))

def Escape.toPattern (mode : Mode) : Escape → Pattern
  | .char c => character mode c
  | .set members => .one members
  | .anchor place => .anchor place

/-- Repeats the part read last. A question mark after a repetition changes only
which match is preferred. -/
def repeatLast (least : Nat) (most : Option Nat) (parts : List Part) : Reader (List Part) := do
  let _ ← accept "?"
  match parts with
  | part :: before =>
    if part.repeatable then
      return .piece (repeating part.pattern least most) (part.depth + 1) :: before
    else failure
  | [] => failure

def simplePart (mode : Mode) (done : List Part) : Reader (List Part) := do
  match ← next with
  | '*' => repeatLast 0 none done
  | '+' => repeatLast 1 none done
  | '?' => repeatLast 0 (some 1) done
  | '\x7b' => do
    let (least, most) ← bounds mode
    repeatLast least most done
  | '[' => do
    let set ← bracket mode deepest (2 * (← remaining) + 2)
    return .piece (.one set.set) set.depth :: done
  | '.' => return .piece (.one (← mode.admit (dot mode))) 0 :: done
  | '^' => return .piece (.anchor (lineStart mode)) 0 :: done
  | '$' => return .piece (.anchor (lineEnd mode)) 0 :: done
  | '\\' => return .piece ((← escape mode).toPattern mode) 0 :: done
  | c => return .piece (character mode c) 0 :: done

mutual

/-- Alternatives up to the end or a closing parenthesis, which is left, with
room for so many levels of groups. A change of modes lasts to the end of the
group. -/
def alternatives (mode : Mode) (room : Nat) (before : List Part) : Nat → Reader Part
  | 0 => failure
  | fuel + 1 => do
    let (part, mode) ← parts mode room [] fuel
    if ← accept "|" then alternatives mode room (part :: before) fuel
    else
      match (part :: before).reverse with
      | first :: others => return Part.either first others
      | [] => failure
termination_by structural fuel => fuel

def parts (mode : Mode) (room : Nat) (done : List Part) : Nat → Reader (Part × Mode)
  | 0 => failure
  | fuel + 1 => do
    skipBlanks mode
    match ← peek with
    | none => return (Part.sequence done, mode)
    | some ')' => return (Part.sequence done, mode)
    | some '|' => return (Part.sequence done, mode)
    | some '(' => do
      skip 1
      match ← opening mode with
      | .modes changed => parts changed room (.modes :: done) fuel
      | .group inner capturing => do
        if room = 0 then failure
        let body ← alternatives inner (room - 1) [] fuel
        expect ')'
        let pattern := if capturing then .group body.pattern else body.pattern
        parts mode room (.piece pattern (body.depth + 1) :: done) fuel
    | some _ => do
      let done ← simplePart mode done
      parts mode room done fuel
termination_by structural fuel => fuel

end

def ofText? (s : String) : Option Pattern := do
  let cs := s.toList
  let (whole, input) ← (alternatives .standard deepest [] (2 * cs.length + 2)).run ⟨cs, []⟩
  if input.rest = [] && whole.depth ≤ deepest && whole.pattern.isCompact then return whole.pattern
  else none

end Eligibility.Pattern
