import Eligibility.Json.Lexeme

/-!
Passing over a value that nobody wants. Only the form of the text is looked at:
strings may hold halves of surrogate pairs, numbers may be of any size, and
containers may nest to any depth.
-/

set_option autoImplicit false

namespace Eligibility.Json.Passing

def string (cs : List Char) : Nat → Except Fault (List Char)
  | 0 => .error .truncated
  | fuel + 1 =>
    match cs with
    | [] => .error .truncated
    | '"' :: rest => .ok rest
    | '\\' :: [] => .error .truncated
    | '\\' :: 'u' :: rest =>
      match fourHex rest with
      | .ok (_, rest) => string rest fuel
      | .error cause => .error cause
    | '\\' :: c :: rest => if (plainEscape? c).isSome then string rest fuel else .error .malformed
    | c :: rest => if c.toNat < 0x20 then .error .malformed else string rest fuel

/-- The text after some digits. That there are none is a fault of the form, also
at the end of the text. -/
def digits (cs : List Char) : Except Fault (List Char) :=
  match Number.spanDigits cs with
  | ([], _) => .error .malformed
  | (_, rest) => .ok rest

def fraction : List Char → Except Fault (List Char)
  | '.' :: rest => digits rest
  | cs => .ok cs

def exponent : List Char → Except Fault (List Char)
  | c :: rest =>
    if c = 'e' || c = 'E' then
      match rest with
      | '-' :: rest => digits rest
      | '+' :: rest => digits rest
      | _ => digits rest
    else .ok (c :: rest)
  | [] => .ok []

def number (cs : List Char) : Except Fault (List Char) := do
  match Number.spanDigits cs with
  | ([], _) => .error .malformed
  | ('0' :: _ :: _, _) => .error .malformed
  | (_, rest) => exponent (← fraction rest)

def scalar (cs : List Char) (fuel : Nat) : Except Fault (List Char) :=
  match cs with
  | [] => .error .truncated
  | c :: rest =>
    if c = '"' then string rest fuel
    else if c = '-' then number rest
    else if c.isDigit then number (c :: rest)
    else if c = 'n' then afterWord "ull".toList rest
    else if c = 't' then afterWord "rue".toList rest
    else if c = 'f' then afterWord "alse".toList rest
    else .error .malformed

inductive Container where
  | array
  | object

inductive Awaited where
  | value
  | key
  /-- The first item or field of a container, or its end. -/
  | first
  /-- A comma, or the end of a container. -/
  | next

namespace Container

def closing : Container → Char
  | .array => ']'
  | .object => '\x7d'

def entry : Container → Awaited
  | .array => .value
  | .object => .key

end Container

/-- Goes on until the containers that are `opened`, innermost first, and what
is awaited in them have ended. -/
def run (opened : List Container) (awaited : Awaited) (cs : List Char) :
    Nat → Except Fault (List Char)
  | 0 => .error .truncated
  | fuel + 1 =>
    match awaited, opened, skipSpace cs with
    | .next, [], _ => .ok cs
    | _, _, [] => .error .truncated
    | .value, _, '[' :: rest => run (.array :: opened) .first rest fuel
    | .value, _, '\x7b' :: rest => run (.object :: opened) .first rest fuel
    | .value, _, here =>
      match scalar here fuel with
      | .ok rest => run opened .next rest fuel
      | .error cause => .error cause
    | .key, _, '"' :: rest =>
      match string rest fuel with
      | .error cause => .error cause
      | .ok rest =>
        match skipSpace rest with
        | [] => .error .truncated
        | ':' :: rest => run opened .value rest fuel
        | _ :: _ => .error .malformed
    | .key, _, _ :: _ => .error .malformed
    | .first, [], _ :: _ => .error .malformed
    | .first, container :: outer, c :: rest =>
      if c = container.closing then run outer .next rest fuel
      else run opened container.entry (c :: rest) fuel
    | .next, container :: outer, c :: rest =>
      if c = ',' then run opened container.entry rest fuel
      else if c = container.closing then run outer .next rest fuel
      else .error .malformed

end Passing

def passOver (cs : List Char) : Except Fault (List Char) :=
  Passing.run [] .value cs (2 * cs.length + 2)

end Eligibility.Json
