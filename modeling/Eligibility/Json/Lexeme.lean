import Eligibility.Json.Document
import Eligibility.Number.Reader

/-!
The smallest parts of JSON text, which reading for a value and passing over
have in common.
-/

set_option autoImplicit false

namespace Eligibility.Json

def isSpace (c : Char) : Bool := c = ' ' || c = '\n' || c = '\t' || c = '\r'

def skipSpace (cs : List Char) : List Char := cs.dropWhile isSpace

def afterWord : List Char → List Char → Except Fault (List Char)
  | [], cs => .ok cs
  | _ :: _, [] => .error .truncated
  | w :: ws, c :: cs => if c = w then afterWord ws cs else .error .malformed

/-- Four hexadecimal digits and the text after them. The text ends too early
when fewer than four bytes are left. -/
def fourHex (cs : List Char) : Except Fault (Nat × List Char) :=
  if (String.ofList (cs.take 4)).utf8ByteSize < 4 then .error .truncated
  else match Number.natOfHex? (cs.take 4) with
    | some n => .ok (n, cs.drop 4)
    | none => .error .malformed

def plainEscape? (c : Char) : Option Char :=
  if c = '"' || c = '\\' || c = '/' then some c
  else if c = 'b' then some '\x08'
  else if c = 'f' then some '\x0c'
  else if c = 'n' then some '\n'
  else if c = 'r' then some '\r'
  else if c = 't' then some '\t'
  else none

end Eligibility.Json
