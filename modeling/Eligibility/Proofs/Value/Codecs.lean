import Eligibility.Proofs.Rule.Package

/-!
The two JSON codecs of values. One follows the form of the value, or of the JSON
value; the other writes a document, and reads one by trying the kinds of values one
after the other. They write the same, and wherever there is no object they read the
same.
-/

set_option autoImplicit false

namespace Eligibility

open Eligibility.Json (Document Fault)

/-! ## Documents of JSON values -/

namespace Json

mutual

theorem exists_toJson_toDocument : ∀ json : Json, ∃ read, json.toDocument.toJson = .ok read
  | .null | .bool _ | .number _ | .text _ => ⟨_, rfl⟩
  | .array items => by
    obtain ⟨reads, written⟩ := exists_itemsToJson_toDocument items
    refine ⟨.array reads, ?_⟩
    rw [toDocument, Document.toJson, written]
    rfl
  | .object fields => by
    obtain ⟨reads, written⟩ := exists_fieldsToJson_toDocument fields
    refine ⟨.ofFields reads, ?_⟩
    rw [toDocument, Document.toJson, written]
    rfl

theorem exists_itemsToJson_toDocument : ∀ items : List Json,
    ∃ reads, Document.itemsToJson (itemsToDocument items) = .ok reads
  | [] => ⟨[], rfl⟩
  | item :: rest => by
    obtain ⟨read, written⟩ := exists_toJson_toDocument item
    obtain ⟨reads, writtenRest⟩ := exists_itemsToJson_toDocument rest
    refine ⟨read :: reads, ?_⟩
    rw [itemsToDocument, Document.itemsToJson, written, writtenRest]
    rfl

theorem exists_fieldsToJson_toDocument : ∀ fields : List (String × Json),
    ∃ reads, Document.fieldsToJson (fieldsToDocument fields) = .ok reads
  | [] => ⟨[], rfl⟩
  | (key, value) :: rest => by
    obtain ⟨read, written⟩ := exists_toJson_toDocument value
    obtain ⟨reads, writtenRest⟩ := exists_fieldsToJson_toDocument rest
    refine ⟨(key, read) :: reads, ?_⟩
    rw [fieldsToDocument, Document.fieldsToJson, written, writtenRest]
    rfl

end

mutual

def isObjectFree : Json → Bool
  | .array items => areObjectFree items
  | .object _ => false
  | _ => true

def areObjectFree : List Json → Bool
  | [] => true
  | item :: rest => isObjectFree item && areObjectFree rest

end

end Json

namespace Value

/-! ## Kinds in turn -/

inductive Kind where
  | null
  | bool
  | int
  | float
  | text
  | list
  deriving DecidableEq, Repr

namespace Kind

def all : List Kind := [.null, .bool, .int, .float, .text, .list]

/-- The document as a value of this kind. Every number is a double, integers too,
and each item of a list is read by itself. -/
def read? : Kind → Document → Option Value
  | .null, .null => some .null
  | .bool, .bool b => some (.bool b)
  | .int, .number n => n.toInt64?.map .int
  | .float, .number n => some (.float n.toFloat)
  | .text, .text s => some (.text s)
  | .list, .array items => (items.mapM fit?).map .list
  | _, _ => none

end Kind

theorem fitItems?_eq_mapM (items : List Document) : fitItems? items = items.mapM fit? := by
  induction items with
  | nil => rfl
  | cons item rest ih => rw [fitItems?, ih, List.mapM_cons]

theorem fit?_eq_findSome? (document : Document) :
    fit? document = Kind.all.findSome? (·.read? document) := by
  cases document with
  -- Only a number fits two kinds, and the integer comes before the double.
  | number n => cases word : n.toInt64? <;> simp [fit?, Kind.all, Kind.read?, word]
  | array items => cases read : items.mapM fit? <;>
      simp [fit?, Kind.all, Kind.read?, fitItems?_eq_mapM, read]
  | _ => rfl

/-! ## Writing -/

mutual

theorem toDocument_toJson : ∀ value : Value, value.toJson.toDocument = value.toDocument
  | .null | .bool _ | .int _ | .text _ => rfl
  | .float x => by
    simp only [toJson, toDocument, Json.ofFloat, Document.ofFloat]
    cases Json.Numeral.ofFloat? x <;> rfl
  | .list items => congrArg Document.array (itemsToDocument_toJsonItems items)

theorem itemsToDocument_toJsonItems : ∀ items : List Value,
    Json.itemsToDocument (toJsonItems items) = toDocumentItems items
  | [] => rfl
  | item :: rest =>
    congrArg₂ List.cons (toDocument_toJson item) (itemsToDocument_toJsonItems rest)

end

theorem toJson_toDocument (value : Value) : value.toDocument.toJson = .ok value.toJson := by
  rw [← toDocument_toJson, Json.toJson_toDocument value.ordered_toJson]

mutual

theorem isObjectFree_toJson : ∀ value : Value, value.toJson.isObjectFree = true
  | .null | .bool _ | .int _ | .text _ => rfl
  | .float x => by
    simp only [toJson, Json.ofFloat]
    split <;> rfl
  | .list items => areObjectFree_toJsonItems items

theorem areObjectFree_toJsonItems : ∀ items : List Value,
    Json.areObjectFree (toJsonItems items) = true
  | [] => rfl
  | item :: rest => by
    simp only [toJsonItems, Json.areObjectFree, isObjectFree_toJson item,
      areObjectFree_toJsonItems rest, Bool.and_self]

end

/-! ## Reading -/

mutual

theorem fit?_toDocument : ∀ json : Json,
    fit? json.toDocument = if json.isObjectFree then some (ofJson json) else none
  | .null | .bool _ | .text _ | .object _ => rfl
  | .number n => by
    simp only [Json.toDocument, fit?, ofJson, ofNumeral]
    split <;> rfl
  | .array items => by
    simp only [Json.toDocument, fit?, fitItems?_toDocument items, Json.isObjectFree, ofJson]
    by_cases free : Json.areObjectFree items = true <;> simp [free]

theorem fitItems?_toDocument : ∀ items : List Json,
    fitItems? (Json.itemsToDocument items) =
      if Json.areObjectFree items then some (ofJsonItems items) else none
  | [] => rfl
  | item :: rest => by
    simp only [Json.itemsToDocument, fitItems?, fit?_toDocument item, fitItems?_toDocument rest,
      Json.areObjectFree, ofJsonItems]
    -- One item with an object in it refuses the whole list.
    by_cases free : item.isObjectFree = true <;>
      by_cases others : Json.areObjectFree rest = true <;> simp [free, others]

end

theorem ofDocument_toDocument (json : Json) :
    ofDocument json.toDocument =
      if json.isObjectFree then .ok (ofJson json) else .error (.mistyped none) := by
  obtain ⟨read, written⟩ := Json.exists_toJson_toDocument json
  rw [ofDocument, written, fit?_toDocument]
  cases json.isObjectFree <;> rfl

theorem ofDocument_toDocument_eq_finitePart (value : Value) :
    ofDocument value.toDocument = .ok value.finitePart := by
  rw [← toDocument_toJson, ofDocument_toDocument, if_pos value.isObjectFree_toJson, ofJson_toJson]

/-- The two codecs agree. Both write a value as the same JSON, and both read it back
as the value with its doubles that are not finite made null. On one JSON value, where
the second tries the kinds in turn, they read the same unless there is an object. -/
theorem codecs_agree :
    (∀ value : Value,
      value.toDocument.toJson = .ok value.toJson ∧ value.toJson.toDocument = value.toDocument ∧
        ofJson value.toJson = value.finitePart ∧
        ofDocument value.toDocument = .ok value.finitePart ∧
        (value.isFinite = true → value.finitePart = value)) ∧
    (∀ document, fit? document = Kind.all.findSome? (·.read? document)) ∧
    ∀ json : Json, ofDocument json.toDocument =
      if json.isObjectFree then .ok (ofJson json) else .error (.mistyped none) := by
  refine ⟨fun value => ?_, fit?_eq_findSome?, ofDocument_toDocument⟩
  exact ⟨value.toJson_toDocument, value.toDocument_toJson, value.ofJson_toJson,
    value.ofDocument_toDocument_eq_finitePart, value.finitePart_eq_self⟩

end Value

end Eligibility
