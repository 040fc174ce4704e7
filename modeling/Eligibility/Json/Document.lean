import Eligibility.Json.Basic

/-!
JSON as it stands in a text: fields in the order they were written, and a key
as often as it was written. What has no value stands as `refused`, what should
have gone on or ended as `unclosed`. A reader that goes from left to right meets
the faults of a text in the order of the text. A document can be read for its
value or passed over; passing over forgives more.
-/

set_option autoImplicit false

namespace Eligibility.Json

inductive Fault where
  | truncated
  | malformed
  | mistyped (message : Option String)
  deriving DecidableEq, Repr

/-- A reading of a text. The keys of an object are documents, since something
else may stand where a key should. -/
inductive Document where
  | null
  | bool (b : Bool)
  | number (n : Numeral)
  | text (s : String)
  | array (items : List Document)
  | object (fields : List (Document × Document))
  /-- A piece that has no value because of `cause`. When it is passed over, it
  is faulty only if `passed` says so, and then nothing follows. -/
  | refused (cause : Fault) (passed : Option Fault)
  /-- What stands in a container instead of a comma or the closing bracket. -/
  | unclosed (cause : Fault)
  deriving Inhabited

namespace Document

def fault (cause : Fault) : Document := .refused cause (some cause)

def ofFields (fields : List (String × Document)) : Document :=
  .object (fields.map fun field => (.text field.1, field.2))

def toKey : Document → Except Fault String
  | .text s => .ok s
  | .refused cause _ => .error cause
  | .unclosed cause => .error cause
  | _ => .error .malformed

end Document

mutual

/-- The value that a document without faults stands for. Of several fields
with one key the last counts. -/
def Document.toJson : Document → Except Fault Json
  | .null => .ok .null
  | .bool b => .ok (.bool b)
  | .number n => .ok (.number n)
  | .text s => .ok (.text s)
  | .array items => do return .array (← Document.itemsToJson items)
  | .object fields => do return Json.ofFields (← Document.fieldsToJson fields)
  | .refused cause _ => .error cause
  | .unclosed cause => .error cause

def Document.itemsToJson : List Document → Except Fault (List Json)
  | [] => .ok []
  | item :: rest => do return (← Document.toJson item) :: (← Document.itemsToJson rest)

def Document.fieldsToJson : List (Document × Document) → Except Fault (List (String × Json))
  | [] => .ok []
  | (key, value) :: rest => do
    let name ← key.toKey
    return (name, ← Document.toJson value) :: (← Document.fieldsToJson rest)

end

mutual

def toDocument : Json → Document
  | .null => .null
  | .bool b => .bool b
  | .number n => .number n
  | .text s => .text s
  | .array items => .array (itemsToDocument items)
  | .object fields => .object (fieldsToDocument fields)

def itemsToDocument : List Json → List Document
  | [] => []
  | item :: rest => toDocument item :: itemsToDocument rest

def fieldsToDocument : List (String × Json) → List (Document × Document)
  | [] => []
  | (key, value) :: rest => (.text key, toDocument value) :: fieldsToDocument rest

end

namespace Document

def ofInt64 (i : Int64) : Document := .number (.ofInt64 i)

def ofNat (n : Nat) : Document := .number (.natural (UInt64.ofNat n))

def ofFloat (x : Float) : Document :=
  match Numeral.ofFloat? x with
  | some n => .number n
  | none => .null

def ofOption {α : Type} (encode : α → Document) : Option α → Document
  | some a => encode a
  | none => .null

def ofList {α : Type} (encode : α → Document) (items : List α) : Document :=
  .array (items.map encode)

end Document

mutual

def Document.skip : Document → Except Fault Unit
  | .array items => Document.skipItems items
  | .object fields => Document.skipFields fields
  | .refused _ (some cause) => .error cause
  | .unclosed cause => .error cause
  | _ => .ok ()

def Document.skipItems : List Document → Except Fault Unit
  | [] => .ok ()
  | item :: rest => do
    Document.skip item
    Document.skipItems rest

/-- A faulty key has the same fault for its value. -/
def Document.skipFields : List (Document × Document) → Except Fault Unit
  | [] => .ok ()
  | (_, value) :: rest => do
    Document.skip value
    Document.skipFields rest

end

end Eligibility.Json
