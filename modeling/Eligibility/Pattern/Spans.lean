import Eligibility.Pattern.Basic

/-!
Where patterns match. `Spans` says for every place of a text where a match that
begins there may end; the spans of a pattern come from those of its parts.
-/

set_option autoImplicit false

namespace Eligibility

/-- For each place of a text the set of places where a match may end. Bit `j`
of a set stands for place `j`. -/
abbrev Spans := Array Nat

namespace Spans

/-- The union of the rows that a set names, for sets of places below `fuel`. -/
def gather (rows : Spans) : Nat → Nat → Nat
  | 0, _ => 0
  | fuel + 1, set =>
    if set = 0 then 0
    else
      let top := set.log2
      rows.getD top 0 ||| gather rows fuel (set ^^^ (1 <<< top))

def compose (first second : Spans) : Spans := first.map (second.gather second.size)

def union (first second : Spans) : Spans := Array.zipWith (· ||| ·) first second

def standing (places : Nat) (test : Nat → Bool) : Spans :=
  (Array.range places).map fun i => if test i then 1 <<< i else 0

def identity (places : Nat) : Spans := standing places fun _ => true

def power (spans : Spans) (n : Nat) : Spans :=
  if n = 0 then identity spans.size
  else
    let half := power spans (n / 2)
    let even := compose half half
    if n % 2 = 0 then even else compose even spans
termination_by n
decreasing_by omega

/-- Any number of spans in a row. Since spans lead forward, the rows of later
places are known when a row is made. -/
def closure (spans : Spans) : Spans :=
  (List.range spans.size).foldr
    (fun i rows => rows.setIfInBounds i ((1 <<< i) ||| rows.gather rows.size (spans.getD i 0)))
    (Array.replicate spans.size 0)

def repeated (spans : Spans) (least : Nat) (most : Option Nat) : Spans :=
  let further := match most with
    | some most =>
      if spans.size ≤ most - least then closure spans
      else power (union (identity spans.size) spans) (most - least)
    | none => closure spans
  if least = 0 then further else compose (power spans least) further

end Spans

namespace WordSide

def holds (before after : Bool) : WordSide → Bool
  | .edge => before != after
  | .noEdge => before == after
  | .start => !before && after
  | .finish => before && !after
  | .noneBefore => !before
  | .noneAfter => !after

end WordSide

namespace Anchor

def holds (before after : Option Char) : Anchor → Bool
  | .textStart => before.isNone
  | .textEnd => after.isNone
  | .lineStart => before.isNone || before == some '\n'
  | .lineEnd => after.isNone || after == some '\n'
  | .returnLineStart =>
    before.isNone || before == some '\n' || (before == some '\r' && after != some '\n')
  | .returnLineEnd =>
    after.isNone || after == some '\r' || (after == some '\n' && before != some '\r')
  | .word side letters => side.holds (before.any letters.holds) (after.any letters.holds)

end Anchor

namespace Pattern

def charBefore (text : Array Char) : Nat → Option Char
  | 0 => none
  | i + 1 => text[i]?

def spans (text : Array Char) : Pattern → Spans
  | .empty => Spans.identity (text.size + 1)
  | .one set =>
    (Array.range (text.size + 1)).map fun i => if text[i]?.any set.holds then 1 <<< (i + 1) else 0
  | .anchor place =>
    Spans.standing (text.size + 1) fun i => place.holds (charBefore text i) text[i]?
  | .sequence first second => (first.spans text).compose (second.spans text)
  | .either first second => (first.spans text).union (second.spans text)
  | .repeated body least most => (body.spans text).repeated least most
  | .group body => body.spans text

def occursIn (pattern : Pattern) (s : String) : Bool :=
  (pattern.spans s.toList.toArray).any (· ≠ 0)

end Pattern

end Eligibility
