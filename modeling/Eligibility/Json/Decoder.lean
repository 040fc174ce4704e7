import Eligibility.Json.Document

/-!
Typed values from JSON documents. A record is described by its slots: an
object fills them by name in the order of its fields, an array by position,
and an unknown field is passed over.
-/

set_option autoImplicit false

namespace Eligibility.Json

def wrongShape {α : Type} : Except Fault α := .error (.mistyped none)

namespace Document

def unwanted {α : Type} : Document → Except Fault α
  | .refused cause _ => .error cause
  | .unclosed cause => .error cause
  | _ => wrongShape

def toText : Document → Except Fault String
  | .text s => .ok s
  | other => other.unwanted

def toBool : Document → Except Fault Bool
  | .bool b => .ok b
  | other => other.unwanted

def toWord : Document → Except Fault UInt64
  | .number (.natural n) => .ok n
  | other => other.unwanted

def toByte (document : Document) : Except Fault UInt8 := do
  let n ← document.toWord
  if n.toNat < 256 then return n.toUInt8 else wrongShape

def toInt64 : Document → Except Fault Int64
  | .number n =>
    match n.toInt64? with
    | some i => .ok i
    | none => wrongShape
  | other => other.unwanted

def toFloat : Document → Except Fault Float
  | .number n => .ok n.toFloat
  | other => other.unwanted

def toOption {α : Type} (decode : Document → Except Fault α) : Document → Except Fault (Option α)
  | .null => .ok none
  | document => (decode document).map some

def toList {α : Type} (decode : Document → Except Fault α) : Document → Except Fault (List α)
  | .array items => items.mapM decode
  | other => other.unwanted

/-- One of finitely many names, written as a string or as the only key of an
object that gives null. Anything else stands where no such text can. -/
def toName {α : Type} (names : List (String × α)) : Document → Except Fault α
  | .text s => named s
  | .object ((key, value) :: rest) => do
    let a ← named (← key.toText)
    match value, rest with
    | .null, [] => return a
    | .null, (_, .unclosed cause) :: _ => .error cause
    | .null, _ :: _ => .error .malformed
    | other, _ => other.unwanted
  | .refused cause _ => .error cause
  | .unclosed cause => .error cause
  | _ => .error .malformed
where
  named (s : String) : Except Fault α :=
    match names.find? (·.1 = s) with
    | some (_, a) => .ok a
    | none => wrongShape

end Document

/-- A field of a record of type `ρ`: how its value changes the record, and what
happens when there is no such field. -/
structure Slot (ρ : Type) where
  key : String
  fill : Document → Except Fault (ρ → ρ)
  absent : Except Fault (ρ → ρ)

namespace Slot

variable {ρ α : Type}

def required (key : String) (decode : Document → Except Fault α) (set : α → ρ → ρ) : Slot ρ :=
  ⟨key, fun document => (decode document).map set, wrongShape⟩

def defaulted (key : String) (decode : Document → Except Fault α) (set : α → ρ → ρ) : Slot ρ :=
  ⟨key, fun document => (decode document).map set, .ok id⟩

/-- Goes through the fields of an object. A field that comes a second time is
refused before its value is looked at. -/
def fillFields (slots : List (Slot ρ)) :
    List (Document × Document) → List String → ρ → Except Fault (List String × ρ)
  | [], taken, r => .ok (taken, r)
  | (key, document) :: rest, taken, r => do
    let name ← key.toKey
    match slots.find? (·.key = name) with
    | none => do
      document.skip
      fillFields slots rest taken r
    | some slot =>
      if name ∈ taken then wrongShape
      else do
        let change ← slot.fill document
        fillFields slots rest (name :: taken) (change r)

def fillAbsent (taken : List String) : List (Slot ρ) → ρ → Except Fault ρ
  | [], r => .ok r
  | slot :: rest, r =>
    if slot.key ∈ taken then fillAbsent taken rest r
    else do
      let change ← slot.absent
      fillAbsent taken rest (change r)

/-- Fills slots with the items of an array. A comma after the last of them is no
JSON of a record, whatever follows it. -/
def fillItems : List (Slot ρ) → List Document → ρ → Except Fault ρ
  | slot :: slots, document :: rest, r => do
    let change ← slot.fill document
    fillItems slots rest (change r)
  | slots, [], r => fillAbsent [] slots r
  | [], .unclosed cause :: _, _ => .error cause
  | [], _ :: _, _ => .error .malformed

end Slot

def Document.toRecord {ρ : Type} (blank : ρ) (slots : List (Slot ρ)) :
    Document → Except Fault ρ
  | .object fields => do
    let (taken, r) ← Slot.fillFields slots fields [] blank
    Slot.fillAbsent taken slots r
  | .array items => Slot.fillItems slots items blank
  | other => other.unwanted

/-- The typed value of a JSON value. Since it is JSON, whatever is wrong with it
is its shape. -/
def decode {α : Type} (decoder : Document → Except Fault α) (json : Json) : Except Fault α :=
  match decoder json.toDocument with
  | .ok a => .ok a
  | .error (.mistyped message) => .error (.mistyped message)
  | .error _ => wrongShape

end Eligibility.Json
