import Eligibility.Text.CaseTable
import Eligibility.Text.Ranges

/-!
Letter case. `lowercase` is the full mapping, where a sigma at the end of a
word takes its final form. `foldingPairs` are the simple foldings of single
characters, under which characters that differ in case only are equal.
-/

set_option autoImplicit false

namespace Eligibility.Text

def CaseRun.holds (run : CaseRun) (c : Char) : Bool :=
  run.first ≤ c.toNat && c.toNat ≤ run.last && (c.toNat - run.first) % run.stride == 0

def CaseRun.shift (run : CaseRun) (c : Char) : Char :=
  Char.ofNat (c.toNat + run.distance).toNat

def shiftBy (runs : Array CaseRun) (c : Char) : Char :=
  match runs.find? (·.holds c) with
  | some run => run.shift c
  | none => c

def meetsCased (cs : List Char) : Bool :=
  match cs.dropWhile (inRanges ignorableRanges) with
  | c :: _ => inRanges casedRanges c
  | [] => false

/-- Lower-case form of one character between what stands `before` it, last
first, and what comes `after` it. -/
def lowercaseAt (before : List Char) (c : Char) (after : List Char) : List Char :=
  if c = 'Σ' then
    if meetsCased before && !meetsCased after then ['ς'] else ['σ']
  else if c = 'İ' then ['i', Char.ofNat 0x307]
  else [shiftBy lowercaseRuns c]

def lowercaseChars (before : List Char) : List Char → List Char
  | [] => []
  | c :: rest => lowercaseAt before c rest ++ lowercaseChars (c :: before) rest

def lowercase (s : String) : String := String.ofList (lowercaseChars [] s.toList)

def CaseRun.pairs (run : CaseRun) : List (Nat × Nat) :=
  (List.range ((run.last - run.first) / run.stride + 1)).map fun i =>
    let source := run.first + i * run.stride
    (source, (source + run.distance).toNat)

def foldingPairs : List (Nat × Nat) := foldingRuns.toList.flatMap CaseRun.pairs

end Eligibility.Text
