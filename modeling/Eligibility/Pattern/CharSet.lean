import Eligibility.Text.Case
import Eligibility.Text.ClassTable
import Eligibility.Text.Blank

/-!
Sets of characters. A set is a list of ranges of code points in ascending
order that neither meet nor touch, so equal sets have equal ranges.
-/

set_option autoImplicit false

namespace Eligibility

structure CharSet where
  ranges : List (Nat × Nat)
  deriving DecidableEq, Repr

namespace CharSet

/-- Joins ranges that meet or touch, where none begins before the one in front. -/
def coalesce : List (Nat × Nat) → List (Nat × Nat)
  | [] => []
  | first :: rest => go first rest
where
  go (current : Nat × Nat) : List (Nat × Nat) → List (Nat × Nat)
    | [] => [current]
    | next :: rest =>
      if next.1 ≤ current.2 + 1 then go (current.1, max current.2 next.2) rest
      else current :: go next rest

def ofRanges (ranges : List (Nat × Nat)) : CharSet :=
  ⟨coalesce (ranges.mergeSort fun a b => a.1 ≤ b.1)⟩

def empty : CharSet := ⟨[]⟩

def range (first last : Char) : CharSet := ⟨[(first.toNat, last.toNat)]⟩

def single (c : Char) : CharSet := range c c

def lastCode : Nat := 0x10FFFF

def gaps (start : Nat) : List (Nat × Nat) → List (Nat × Nat)
  | [] => if start ≤ lastCode then [(start, lastCode)] else []
  | (first, last) :: rest =>
    if start < first then (start, first - 1) :: gaps (last + 1) rest else gaps (last + 1) rest

def complement (set : CharSet) : CharSet := ⟨gaps 0 set.ranges⟩

def all : CharSet := complement empty

def union (a b : CharSet) : CharSet := ofRanges (a.ranges ++ b.ranges)

def inter (a b : CharSet) : CharSet := complement (union (complement a) (complement b))

def difference (a b : CharSet) : CharSet := inter a (complement b)

def symmetricDifference (a b : CharSet) : CharSet := union (difference a b) (difference b a)

def holdsCode (set : CharSet) (n : Nat) : Bool := set.ranges.any fun r => r.1 ≤ n && n ≤ r.2

def holds (set : CharSet) (c : Char) : Bool := set.holdsCode c.toNat

def isAscii (set : CharSet) : Bool := set.ranges.all (·.2 < 0x80)

def foldings (ascii : Bool) : List (Nat × Nat) :=
  if ascii then Text.foldingPairs.filter fun pair => pair.1 < 0x80 && pair.2 < 0x80
  else Text.foldingPairs

def anyCase (ascii : Bool) (set : CharSet) : CharSet :=
  let pairs := foldings ascii
  let folded := pairs.filter fun pair => set.holdsCode pair.1 || set.holdsCode pair.2
  let targets := ofRanges (folded.map fun pair => (pair.2, pair.2))
  let sources := pairs.filter fun pair => targets.holdsCode pair.2
  ofRanges (set.ranges ++ targets.ranges ++ sources.map fun pair => (pair.1, pair.1))

def digit : CharSet := ⟨Text.digitRanges.toList⟩

def space : CharSet := ⟨Text.blankRanges⟩

def word : CharSet := ⟨Text.wordRanges.toList⟩

end CharSet

end Eligibility
