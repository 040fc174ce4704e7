import Eligibility.Value.Basic
import Eligibility.Json.Document

/-!
Values and JSON. Values have JSON forms twice over: as JSON values, and as
documents written and read directly; both forms agree. A JSON object is no
value: as a JSON value it reads as null, in a document it is refused.
-/

set_option autoImplicit false

namespace Eligibility.Value

open Eligibility.Json (Numeral Document Fault)

def ofNumeral (n : Numeral) : Value :=
  match n.toInt64? with
  | some i => .int i
  | none => .float n.toFloat

mutual

def ofJson : Json → Value
  | .null => .null
  | .bool b => .bool b
  | .number n => ofNumeral n
  | .text s => .text s
  | .array items => .list (ofJsonItems items)
  | .object _ => .null

def ofJsonItems : List Json → List Value
  | [] => []
  | item :: rest => ofJson item :: ofJsonItems rest

end

mutual

def toJson : Value → Json
  | .null => .null
  | .bool b => .bool b
  | .int i => Json.ofInt64 i
  | .float x => Json.ofFloat x
  | .text s => .text s
  | .list items => .array (toJsonItems items)

def toJsonItems : List Value → List Json
  | [] => []
  | item :: rest => toJson item :: toJsonItems rest

end

theorem ofJson_ofInt64 (i : Int64) : ofJson (Json.ofInt64 i) = .int i := by
  simp [Json.ofInt64, ofJson, ofNumeral, Numeral.toInt64?_ofInt64]

theorem ofJson_ofFloat {x : Float} (finite : Number.isFinite x = true) :
    ofJson (Json.ofFloat x) = .float x := by
  simp [Json.ofFloat, Numeral.ofFloat?, finite, ofJson, ofNumeral, Numeral.toInt64?,
    Numeral.toFloat]

mutual

def toDocument : Value → Document
  | .null => .null
  | .bool b => .bool b
  | .int i => .ofInt64 i
  | .float x => .ofFloat x
  | .text s => .text s
  | .list items => .array (toDocumentItems items)

def toDocumentItems : List Value → List Document
  | [] => []
  | item :: rest => toDocument item :: toDocumentItems rest

end

mutual

/-- The first kind of value that fits: null, boolean, integer, double, text,
list. -/
def fit? : Document → Option Value
  | .null => some .null
  | .bool b => some (.bool b)
  | .number n =>
    match n.toInt64? with
    | some i => some (.int i)
    | none => some (.float n.toFloat)
  | .text s => some (.text s)
  | .array items => (fitItems? items).map .list
  | .object _ => none
  | .refused .. => none
  | .unclosed _ => none

def fitItems? : List Document → Option (List Value)
  | [] => some []
  | item :: rest => do return (← fit? item) :: (← fitItems? rest)

end

/-- The value of a document, which is read to its end before any kind is tried. -/
def ofDocument (document : Document) : Except Fault Value := do
  let _ ← document.toJson
  match fit? document with
  | some value => return value
  | none => .error (.mistyped none)

end Eligibility.Value
