import Eligibility.Json.Passing

/-!
JSON text read into a `Document`. Containers with a value nest at most 127
levels deep. A place that cannot even be passed over ends the reading, so every
piece carries the text after it, or nothing when the reading ended there.
-/

set_option autoImplicit false

namespace Eligibility.Json.Reader

/-- What was read and the text after it; no text means that reading ended. -/
abbrev Piece (α : Type) := α × Option (List Char)

/-- A piece without a value because of `cause`, and what passing over it at the
same place gives. -/
def refuse (cause : Fault) (cs : List Char) : Piece Document :=
  match passOver cs with
  | .ok rest => (.refused cause none, some rest)
  | .error passed => (.refused cause (some passed), none)

/-- The character named by the escape `\u…`; a high surrogate has to be
followed by the escape of a low one. -/
def unicodeEscape (cs : List Char) : Except Fault (Char × List Char) := do
  let (first, rest) ← fourHex cs
  if 0xDC00 ≤ first ∧ first ≤ 0xDFFF then .error .malformed
  else if 0xD800 ≤ first ∧ first ≤ 0xDBFF then
    match rest with
    | [] => .error .truncated
    | '\\' :: [] => .error .truncated
    | '\\' :: 'u' :: more =>
      let (second, rest) ← fourHex more
      if 0xDC00 ≤ second ∧ second ≤ 0xDFFF then
        return (Char.ofNat (0x10000 + (first - 0xD800) * 0x400 + (second - 0xDC00)), rest)
      else .error .malformed
    | _ => .error .malformed
  else return (Char.ofNat first, rest)

def escaped : List Char → Except Fault (Char × List Char)
  | [] => .error .truncated
  | 'u' :: rest => unicodeEscape rest
  | c :: rest =>
    match plainEscape? c with
    | some meant => .ok (meant, rest)
    | none => .error .malformed

/-- The inside of a string up to its closing quote; `done` is what was read of
it, last first. -/
def string (done : List Char) (cs : List Char) : Nat → Except Fault (String × List Char)
  | 0 => .error .truncated
  | fuel + 1 =>
    match cs with
    | [] => .error .truncated
    | c :: rest =>
      if c = '"' then .ok (String.ofList done.reverse, rest)
      else if c = '\\' then
        match escaped rest with
        | .ok (escapedChar, more) => string (escapedChar :: done) more fuel
        | .error cause => .error cause
      else if c.toNat < 0x20 then .error .malformed
      else string (c :: done) rest fuel

def someDigits (cs : List Char) : Except Fault (List Char × List Char) :=
  match Number.spanDigits cs with
  | ([], []) => .error .truncated
  | ([], _ :: _) => .error .malformed
  | (digits, rest) => .ok (digits, rest)

def fraction (cs : List Char) : Except Fault (Option (List Char) × List Char) :=
  match cs with
  | '.' :: more => (someDigits more).map fun (digits, rest) => (some digits, rest)
  | _ => .ok (none, cs)

def exponent (cs : List Char) : Except Fault (Option Int × List Char) :=
  match cs with
  | c :: more =>
    if c = 'e' || c = 'E' then
      match more with
      | '-' :: digits =>
        (someDigits digits).map fun (ds, rest) => (some (-(Number.natOfDigits ds : Int)), rest)
      | '+' :: digits =>
        (someDigits digits).map fun (ds, rest) => (some (Number.natOfDigits ds : Int), rest)
      | _ => (someDigits more).map fun (ds, rest) => (some (Number.natOfDigits ds : Int), rest)
    else .ok (none, cs)
  | [] => .ok (none, cs)

/-- An integer that fits into a word keeps its form; any other number is the
double it names, unless that is too large. -/
def numeral? (negative : Bool) (whole : List Char) (fraction : Option (List Char))
    (exponent : Option Int) : Option Numeral :=
  let n := Number.natOfDigits whole
  let real? := do
    let x ← Number.scaled? negative whole (fraction.getD []) (exponent.getD 0)
    Numeral.ofFloat? x
  if fraction.isSome || exponent.isSome then real?
  else if negative then
    if 0 < n ∧ n ≤ 0x8000000000000000 then some (.ofInt64 (Int64.ofInt (-(n : Int)))) else real?
  else if n < UInt64.size then some (.natural (UInt64.ofNat n))
  else real?

def number (negative : Bool) (cs : List Char) : Except Fault (Numeral × List Char) := do
  let (whole, rest) ← someDigits cs
  match whole with
  | '0' :: _ :: _ => .error .malformed
  | _ =>
    let (fraction, rest) ← fraction rest
    let (exponent, rest) ← exponent rest
    match numeral? negative whole fraction exponent with
    | some n => return (n, rest)
    | none => .error .malformed

def piece {α : Type} (cs : List Char) (make : α → Document) :
    Except Fault (α × List Char) → Piece Document
  | .ok (a, rest) => (make a, some rest)
  | .error cause => refuse cause cs

def word (cs : List Char) (value : Document) (tail : String) (rest : List Char) : Piece Document :=
  piece cs (fun () => value) ((afterWord tail.toList rest).map ((), ·))

def unclosedItems (cause : Fault) : Piece (List Document) := ([.unclosed cause], none)

def unclosedFields (cause : Fault) : Piece (List (Document × Document)) :=
  ([(.unclosed cause, .unclosed cause)], none)

mutual

/-- A value; `room` is how many more containers may be opened. -/
def value (room : Nat) (cs : List Char) : Nat → Piece Document
  | 0 => refuse .truncated []
  | fuel + 1 =>
    match skipSpace cs with
    | [] => refuse .truncated []
    | c :: rest =>
      if c = '"' then piece (c :: rest) .text (string [] rest fuel)
      else if c = '-' then piece (c :: rest) .number (number true rest)
      else if c.isDigit then piece (c :: rest) .number (number false (c :: rest))
      else if c = 'n' then word (c :: rest) .null "ull" rest
      else if c = 't' then word (c :: rest) (.bool true) "rue" rest
      else if c = 'f' then word (c :: rest) (.bool false) "alse" rest
      else if c = '[' then
        if room = 0 then refuse .malformed (c :: rest)
        else
          let (items, rest) := items (room - 1) true rest fuel
          (.array items, rest)
      else if c = '\x7b' then
        if room = 0 then refuse .malformed (c :: rest)
        else
          let (fields, rest) := fields (room - 1) true rest fuel
          (.object fields, rest)
      else refuse .malformed (c :: rest)
termination_by structural fuel => fuel

def items (room : Nat) (first : Bool) (cs : List Char) : Nat → Piece (List Document)
  | 0 => unclosedItems .truncated
  | fuel + 1 =>
    match skipSpace cs with
    | [] => unclosedItems .truncated
    | c :: rest =>
      if c = ']' then ([], some rest)
      else if first then itemThen room (c :: rest) fuel
      else if c = ',' then itemThen room rest fuel
      else unclosedItems .malformed
termination_by structural fuel => fuel

def itemThen (room : Nat) (cs : List Char) : Nat → Piece (List Document)
  | 0 => unclosedItems .truncated
  | fuel + 1 =>
    match value room cs fuel with
    | (item, none) => ([item], none)
    | (item, some rest) =>
      let (more, rest) := items room false rest fuel
      (item :: more, rest)
termination_by structural fuel => fuel

def fields (room : Nat) (first : Bool) (cs : List Char) : Nat → Piece (List (Document × Document))
  | 0 => unclosedFields .truncated
  | fuel + 1 =>
    match skipSpace cs with
    | [] => unclosedFields .truncated
    | c :: rest =>
      if c = '\x7d' then ([], some rest)
      else if first then fieldThen room (c :: rest) fuel
      else if c = ',' then fieldThen room (skipSpace rest) fuel
      else unclosedFields .malformed
termination_by structural fuel => fuel

/-- A field and what follows it. Where a key should stand, what is no string has
no field. -/
def fieldThen (room : Nat) (cs : List Char) : Nat → Piece (List (Document × Document))
  | 0 => unclosedFields .truncated
  | fuel + 1 =>
    match cs with
    | [] => ([(.fault .truncated, .fault .truncated)], none)
    | '"' :: rest =>
      match piece cs .text (string [] rest fuel) with
      | (.refused cause (some passed), _) =>
        ([(.refused cause (some passed), .refused cause (some passed))], none)
      | (key, none) => ([(key, .fault .truncated)], none)
      | (key, some rest) =>
        match skipSpace rest with
        | [] => ([(key, .fault .truncated)], none)
        | ':' :: rest =>
          match value room rest fuel with
          | (item, none) => ([(key, item)], none)
          | (item, some rest) =>
            let (more, rest) := fields room false rest fuel
            ((key, item) :: more, rest)
        | _ :: _ => ([(key, .fault .malformed)], none)
    | _ :: _ =>
      match value room cs fuel with
      | (.refused .., _) => ([(.fault .malformed, .fault .malformed)], none)
      | (misplaced, _) => ([(misplaced, .fault .malformed)], none)
termination_by structural fuel => fuel

end

end Reader

/-- A whole text: its value, and the fault of what follows it, if anything does. -/
structure Source where
  root : Document
  trailing : Option Fault

def deepest : Nat := 127

def Source.ofText (s : String) : Source :=
  let cs := s.toList
  match Reader.value deepest cs (3 * cs.length + 1) with
  | (root, none) => ⟨root, none⟩
  | (root, some rest) => ⟨root, if skipSpace rest = [] then none else some .malformed⟩

/-- What a text says under a decoder, which goes before the check that nothing
follows the value. -/
def Source.decode {α : Type} (decoder : Document → Except Fault α) (source : Source) :
    Except Fault α := do
  let a ← decoder source.root
  match source.trailing with
  | none => return a
  | some cause => .error cause

end Eligibility.Json
