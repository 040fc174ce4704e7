import Eligibility.Pattern.Escape

/-!
Sets of characters in brackets: characters, ranges, named sets, sets within sets
and operations on them. Beside its set a bracket has a depth, which counts the
levels of its notation.
-/

set_option autoImplicit false

namespace Eligibility.Pattern

open Reader

def namedSets : List (String × CharSet) :=
  [ ("alnum", asciiSet [('0', '9'), ('A', 'Z'), ('a', 'z')]),
    ("alpha", asciiSet [('A', 'Z'), ('a', 'z')]),
    ("ascii", asciiSet [('\x00', '\x7f')]),
    ("blank", asciiSet [('\t', '\t'), (' ', ' ')]),
    ("cntrl", asciiSet [('\x00', '\x1f'), ('\x7f', '\x7f')]),
    ("digit", asciiSet [('0', '9')]),
    ("graph", asciiSet [('!', '~')]),
    ("lower", asciiSet [('a', 'z')]),
    ("print", asciiSet [(' ', '~')]),
    ("punct", asciiSet [('!', '/'), (':', '@'), ('[', '\x60'), ('\x7b', '~')]),
    ("space", asciiSet [('\t', '\r'), (' ', ' ')]),
    ("upper", asciiSet [('A', 'Z')]),
    ("word", asciiSet [('0', '9'), ('A', 'Z'), ('_', '_'), ('a', 'z')]),
    ("xdigit", asciiSet [('0', '9'), ('A', 'F'), ('a', 'f')]) ]

def namedSet? (mode : Mode) : Reader (Option CharSet) := do
  let before ← get
  let found ←
    if ← accept "[:" then
      let negated ← accept "^"
      let name ← takeWhile Char.isAlpha
      let closed ← accept ":]"
      match namedSets.find? (·.1 = String.ofList name), closed with
      | some (_, named), true => do
        let members := mode.close named
        some <$> mode.admit (if negated then members.complement else members)
      | _, _ => pure none
    else pure none
  if found.isNone then set before
  return found

def setItem (mode : Mode) : Reader Escape := do
  match ← next with
  | '\\' =>
    match ← escape mode with
    | .anchor _ => failure
    | item => return item
  | c => return .char c

def Escape.toSet : Escape → CharSet
  | .char c => .single c
  | .set members => members
  | .anchor _ => .empty

inductive SetOperator where
  | inter
  | difference
  | symmetricDifference

namespace SetOperator

def apply : SetOperator → CharSet → CharSet → CharSet
  | .inter => .inter
  | .difference => .difference
  | .symmetricDifference => .symmetricDifference

def all : List (String × SetOperator) :=
  [("&&", .inter), ("--", .difference), ("~~", .symmetricDifference)]

end SetOperator

structure Nested where
  set : CharSet
  depth : Nat

/-- Items of a set that stand side by side: what they hold, how many they are,
and the depth of the deepest. -/
structure Items where
  set : CharSet
  count : Nat
  depth : Nat

namespace Items

def empty : Items := ⟨.empty, 0, 0⟩

def add (items : Items) (set : CharSet) (depth : Nat) : Items :=
  ⟨items.set.union set, items.count + 1, max items.depth depth⟩

def nested (items : Items) : Nested :=
  ⟨items.set, if 2 ≤ items.count then items.depth + 1 else items.depth⟩

end Items

def joined (mode : Mode) (before : Option (Nested × SetOperator)) (items : Items) : Nested :=
  match before with
  | none => items.nested
  | some (left, operator) =>
    ⟨operator.apply (mode.close left.set) (mode.close items.set),
      1 + max left.depth items.nested.depth⟩

def isRangeHyphen (mode : Mode) : Reader Bool := fun input =>
  let answer :=
    match input.rest with
    | '-' :: rest =>
      let after := if mode.verbose then dropBlanks false rest else rest
      after.head? ≠ some ']' && after.head? ≠ some '-'
    | _ => false
  some (answer, input)

def setOperator? : Reader (Option SetOperator) :=
  SetOperator.all.foldr (fun (word, operator) others => do
    if ← accept word then return some operator else others) (return none)

/-- A closing bracket that is an item, because nothing stands before it. -/
def firstItem (start : Items) : Reader Items := do
  if start.count = 0 then
    if ← accept "]" then return start.add (.single ']') 0 else return start
  else return start

mutual

/-- A set in brackets, after the opening one, with room for so many levels.
Hyphens in front, or a closing bracket in front, stand for themselves. -/
def bracket (mode : Mode) (room : Nat) : Nat → Reader Nested
  | 0 => failure
  | fuel + 1 => do
    if room = 0 then failure
    skipBlanks mode
    let negated ← accept "^"
    skipBlanks mode
    let hyphens ← takeSpaced mode (· = '-') [] fuel
    let start := hyphens.foldl (fun items c => items.add (.single c) 0) Items.empty
    let start ← firstItem start
    let inner ← setItems mode room none start fuel
    let set := mode.close inner.set
    let set ← mode.admit (if negated then set.complement else set)
    return ⟨set, inner.depth + 1⟩
termination_by structural fuel => fuel

def setItems (mode : Mode) (room : Nat) (before : Option (Nested × SetOperator)) (items : Items) :
    Nat → Reader Nested
  | 0 => failure
  | fuel + 1 => do
    skipBlanks mode
    match ← peek with
    | none => failure
    | some ']' => do
      skip 1
      return joined mode before items
    | some '[' => do
      match ← namedSet? mode with
      | some named => setItems mode room before (items.add named 0) fuel
      | none => do
        skip 1
        let inner ← bracket mode (room - 1) fuel
        setItems mode room before (items.add inner.set inner.depth) fuel
    | some _ => do
      match ← setOperator? with
      | some operator => setItems mode room (some (joined mode before items, operator)) .empty fuel
      | none => do
        let first ← setItem mode
        let _ ← mode.admit first.toSet
        skipBlanks mode
        if ← isRangeHyphen mode then do
          skip 1
          skipBlanks mode
          match first, ← setItem mode with
          | .char a, .char b =>
            let range ← mode.admit (.range a b)
            if a ≤ b then setItems mode room before (items.add range 0) fuel else failure
          | _, _ => failure
        else setItems mode room before (items.add first.toSet 0) fuel
termination_by structural fuel => fuel

end

end Eligibility.Pattern
