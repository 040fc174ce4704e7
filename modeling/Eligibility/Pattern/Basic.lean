import Eligibility.Pattern.CharSet

/-!
Text patterns. `sequenceOf`, `eitherOf` and `repeating` build a pattern in its
simplest form: what cannot change a match is left out.
-/

set_option autoImplicit false

namespace Eligibility

inductive WordSide where
  | edge
  | noEdge
  | start
  | finish
  /-- No word ends here. -/
  | noneBefore
  /-- No word begins here. -/
  | noneAfter
  deriving DecidableEq, Repr

inductive Anchor where
  | textStart
  | textEnd
  | lineStart
  | lineEnd
  /-- A line start where a carriage return, a line feed or both end a line. -/
  | returnLineStart
  | returnLineEnd
  | word (side : WordSide) (letters : CharSet)
  deriving DecidableEq, Repr

inductive Pattern where
  | empty
  | one (set : CharSet)
  | anchor (place : Anchor)
  | sequence (first second : Pattern)
  | either (first second : Pattern)
  | repeated (body : Pattern) (least : Nat) (most : Option Nat)
  /-- A part whose place in the text can be asked for. -/
  | group (body : Pattern)
  deriving DecidableEq, Repr

namespace Pattern

def isWidthless : Pattern → Bool
  | .empty => true
  | .one _ => false
  | .anchor _ => true
  | .sequence first second => first.isWidthless && second.isWidthless
  | .either first second => first.isWidthless && second.isWidthless
  | .repeated body _ most => body.isWidthless || most == some 0
  | .group body => body.isWidthless

def isSolid : Pattern → Bool
  | .empty => false
  | .one set => set ≠ .empty
  | .anchor _ => false
  | .sequence first second => first.isSolid || second.isSolid
  | .either first second => first.isSolid && second.isSolid
  | .repeated body least _ => least ≠ 0 && body.isSolid
  | .group body => body.isSolid

def followedBy : Pattern → Pattern → Pattern
  | .empty, second => second
  | first, .empty => first
  | first, second => .sequence first second

def sequenceOf (parts : List Pattern) : Pattern := parts.foldr followedBy .empty

def sets? : List Pattern → Option (List CharSet)
  | [] => some []
  | .one set :: rest => (sets? rest).map (set :: ·)
  | _ :: _ => none

def branches : Pattern → List Pattern
  | .either first second => branches first ++ branches second
  | pattern => [pattern]

/-- One of several patterns, given at least one. Single characters become a set. -/
def eitherOf (first : Pattern) (others : List Pattern) : Pattern :=
  match sets? ((first :: others).flatMap branches) with
  | some sets => .one (sets.foldl CharSet.union .empty)
  | none => others.foldl .either first

/-- A repetition. Of what is always empty, one repetition is as good as many. -/
def repeating (body : Pattern) (least : Nat) (most : Option Nat) : Pattern :=
  let (least, most) :=
    if body.isWidthless then (min least 1, some (min (most.getD 1) 1)) else (least, most)
  if most = some 0 then .empty
  else if least = 1 && most = some 1 then body
  else .repeated body least most

end Pattern

end Eligibility
