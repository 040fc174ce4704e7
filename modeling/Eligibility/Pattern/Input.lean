import Eligibility.Pattern.Basic

/-!
The text of a pattern while it is read, and the modes that say how.
-/

set_option autoImplicit false

namespace Eligibility.Pattern

structure Mode where
  anyCase : Bool
  /-- `^` and `$` stand at lines. -/
  lines : Bool
  /-- `.` takes line feeds too. -/
  dotAll : Bool
  /-- Blanks and comments mean nothing. -/
  verbose : Bool
  /-- A carriage return ends a line too. -/
  returns : Bool
  /-- Classes and case are those of ASCII. -/
  ascii : Bool

namespace Mode

def standard : Mode := ⟨false, false, false, false, false, false⟩

def close (mode : Mode) (set : CharSet) : CharSet :=
  if mode.anyCase then set.anyCase mode.ascii else set

end Mode

structure Input where
  rest : List Char
  names : List String

abbrev Reader (α : Type) := StateT Input Option α

/-- Takes blanks and comments away; a comment begins with `#` and takes its line. -/
def dropBlanks (inComment : Bool) : List Char → List Char
  | [] => []
  | c :: rest =>
    if inComment then dropBlanks (c ≠ '\n') rest
    else if c = '#' then dropBlanks true rest
    else if Text.isBlank c then dropBlanks false rest
    else c :: rest

namespace Reader

def peek : Reader (Option Char) := fun input => some (input.rest.head?, input)

def skip (n : Nat) : Reader Unit := fun input => some ((), { input with rest := input.rest.drop n })

def next : Reader Char := fun input =>
  match input.rest with
  | c :: rest => some (c, { input with rest := rest })
  | [] => none

def expect (c : Char) : Reader Unit := do
  if (← next) = c then return () else failure

def accept (word : String) : Reader Bool := fun input =>
  if word.toList.isPrefixOf input.rest then
    some (true, { input with rest := input.rest.drop word.length })
  else some (false, input)

def startsWith (word : String) : Reader Bool := fun input =>
  some (word.toList.isPrefixOf input.rest, input)

def takeWhile (test : Char → Bool) : Reader (List Char) := fun input =>
  some (input.rest.takeWhile test, { input with rest := input.rest.dropWhile test })

def skipBlanks (mode : Mode) : Reader Unit := fun input =>
  some ((), if mode.verbose then { input with rest := dropBlanks false input.rest } else input)

def takeSpaced (mode : Mode) (test : Char → Bool) (done : List Char) : Nat → Reader (List Char)
  | 0 => return done.reverse
  | fuel + 1 => do
    match ← peek with
    | some c =>
      if test c then do
        skip 1
        skipBlanks mode
        takeSpaced mode test (c :: done) fuel
      else return done.reverse
    | none => return done.reverse

def remaining : Reader Nat := fun input => some (input.rest.length, input)

end Reader

end Eligibility.Pattern
