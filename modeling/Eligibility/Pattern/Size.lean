import Eligibility.Pattern.Basic

/-!
How much memory the automaton of a pattern takes. A pattern counts as too large
when the automaton that reads UTF-8 forward, or the one that reads it backward,
takes more than ten mebibytes. A state takes 32 bytes, an edge of a branching
state 4, and a range of bytes that leads on 8.
-/

set_option autoImplicit false

namespace Eligibility

namespace CharSet

/-- Code points by the length of their UTF-8 form, with the byte that a form
begins with and the number of bytes that follow. -/
def forms : List (Nat × Nat × Nat × Nat) :=
  [ (0x0, 0x7F, 0x0, 0), (0x80, 0x7FF, 0xC0, 1), (0x800, 0xD7FF, 0xE0, 2),
    (0xE000, 0xFFFF, 0xE0, 2), (0x10000, 0x10FFFF, 0xF0, 3) ]

abbrev ByteRanges := List (Nat × Nat)

/-- Covers the numbers from `first` to `last`, written with `places` digits of
six bits after the leading one, by sequences in ascending order. -/
def cover : Nat → Nat → Nat → List ByteRanges
  | 0, first, last => [[(first, last)]]
  | places + 1, first, last =>
    let unit := 1 <<< (6 * (places + 1))
    let low := first / unit
    let high := last / unit
    let under (digit : Nat) (tails : List ByteRanges) := tails.map ((digit, digit) :: ·)
    if low = high then under low (cover places (first % unit) (last % unit))
    else
      let raggedLow := first % unit ≠ 0
      let raggedHigh := last % unit ≠ unit - 1
      let fullLow := if raggedLow then low + 1 else low
      let fullEnd := if raggedHigh then high else high + 1
      (if raggedLow then under low (cover places (first % unit) (unit - 1)) else []) ++
        (if fullLow < fullEnd then [(fullLow, fullEnd - 1) :: List.replicate (places + 1) (0, 63)]
          else []) ++
        (if raggedHigh then under high (cover places 0 (last % unit)) else [])

def byteRanges (range : Nat × Nat) : List ByteRanges :=
  forms.flatMap fun (first, last, lead, places) =>
    if max first range.1 ≤ min last range.2 then
      (cover places (max first range.1) (min last range.2)).map fun bytes =>
        match bytes with
        | (low, high) :: rest => (lead + low, lead + high) :: rest
        | [] => []
    else []

def byHead (sequences : List ByteRanges) : List ((Nat × Nat) × List ByteRanges) :=
  sequences.foldr (fun bytes groups =>
    match bytes, groups with
    | [], _ => groups
    | head :: tail, (other, tails) :: rest =>
      if head = other then (other, (tail :: tails)) :: rest
      else (head, [tail]) :: (other, tails) :: rest
    | head :: tail, [] => [(head, [tail])]) []

/-- A state by the ranges that lead on from it and the numbers of the states
that they lead to. The last state has number zero. -/
abbrev ByteState := List ((Nat × Nat) × Nat)

def numbered (state : ByteState) (known : List ByteState) : Nat × List ByteState :=
  match known.reverse.idxOf? state with
  | some i => (i + 1, known)
  | none => (known.length + 1, state :: known)

/-- The state that begins the sequences, with at most `length` bytes each. -/
def stateOf : Nat → List ByteRanges → List ByteState → Nat × List ByteState
  | 0, _, known => (0, known)
  | length + 1, sequences, known =>
    match byHead sequences with
    | [] => (0, known)
    | groups =>
      let (state, known) := groups.foldl (fun (state, known) (head, tails) =>
        let (target, known) := stateOf length tails known
        (state ++ [(head, target)], known)) ([], known)
      numbered state known

/-- The number of distinct beginnings of sequences with at most `length` bytes. -/
def beginnings : Nat → List ByteRanges → Nat
  | 0, _ => 0
  | length + 1, sequences =>
    (byHead sequences).foldl (fun count group => count + 1 + beginnings length group.2) 0

def forwardSize (sequences : List ByteRanges) : Nat :=
  (stateOf 4 sequences []).2.foldl (fun size state => size + 32 + 8 * state.length) 32

def backwardSize (sequences : List ByteRanges) : Nat :=
  64 + 4 * sequences.length + 32 * beginnings 4 sequences

def size (backward : Bool) (set : CharSet) : Nat :=
  let sequences := set.ranges.flatMap byteRanges
  match sequences with
  | [] => 32
  | [bytes] =>
    if bytes.all fun range => range.1 = range.2 then 32 * bytes.length
    else if set.isAscii then 72
    else if backward then backwardSize sequences else forwardSize sequences
  | _ =>
    if set.isAscii then 64 + 8 * set.ranges.length
    else if backward then backwardSize sequences else forwardSize sequences

end CharSet

namespace Pattern

def branchSize : Pattern → Nat → Nat
  | .either .., size => size - 64
  | _, size => size + 4

def repeatedSize (solid : Bool) (body least : Nat) : Option Nat → Nat
  | some most =>
    if least = most then least * body
    else if least = 0 && most = 1 then body + 72
    else (if least = 0 then 32 else least * body) + 32 + (most - least) * (body + 40)
  | none =>
    if least = 0 then (if solid then body + 40 else body + 112) else least * body + 40

/-- The size of the automaton in bytes. Groups count only when reading forward. -/
def size (backward : Bool) : Pattern → Nat
  | .empty => 32
  | .one set => set.size backward
  | .anchor _ => 32
  | .sequence first second => first.size backward + second.size backward
  | .either first second =>
    64 + branchSize first (first.size backward) + branchSize second (second.size backward)
  | .repeated body least most => repeatedSize body.isSolid (body.size backward) least most
  | .group body => if backward then body.size backward else body.size backward + 64

def largest : Nat := 10 * 1024 * 1024

def isCompact (pattern : Pattern) : Bool :=
  pattern.size false + 208 ≤ largest && pattern.size true + 144 ≤ largest

end Pattern

end Eligibility
