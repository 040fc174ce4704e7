import Mathlib.Data.List.Basic
import Eligibility.Rule.Package
import Eligibility.Proofs.Expr.Reread

/-!
Packages through their JSON form. What is left out of it is what its absence
means, and every expression is written in a form that denotes it.
-/

set_option autoImplicit false

namespace Eligibility

open Eligibility.Json (Document Slot Entry Survives)
open Eligibility.Json.Document (toText toBool toOption toList toName)

/-! ## Parts of records -/

theorem survives_text (s : String) : Survives toText (.text s) s := ⟨.text s, rfl, rfl⟩

theorem survives_bool (b : Bool) : Survives toBool (.bool b) b := ⟨.bool b, rfl, rfl⟩

theorem survives_kind (kind : RuleKind) :
    Survives (toName RuleKind.names) (.text kind.name) kind :=
  ⟨.text kind.name, rfl, by cases kind <;> rfl⟩

theorem survives_category (area : ProgramCategory) :
    Survives (toOption (toName ProgramCategory.names)) (.text area.name) (some area) :=
  ⟨.text area.name, rfl, by cases area <;> rfl⟩

theorem survives_optionalText (s : String) : Survives (toOption toText) (.text s) (some s) :=
  ⟨.text s, rfl, rfl⟩

theorem survives_optionalBool (b : Bool) : Survives (toOption toBool) (.bool b) (some b) :=
  ⟨.bool b, rfl, rfl⟩

/-! ## Expressions -/

namespace Value

theorem ordered_ofFloat (x : Float) : (Json.ofFloat x).Ordered := by
  unfold Json.ofFloat
  split
  · exact .number _
  · exact .null

mutual

theorem ordered_toJson : ∀ value : Value, value.toJson.Ordered
  | .null => .null
  | .bool b => .bool b
  | .int _ => .number _
  | .float x => ordered_ofFloat x
  | .text s => .text s
  | .list items => .array (ordered_toJsonItems items)

theorem ordered_toJsonItems : ∀ items : List Value, ∀ json ∈ toJsonItems items, json.Ordered
  | [] => nofun
  | item :: rest => List.forall_mem_cons.mpr ⟨ordered_toJson item, ordered_toJsonItems rest⟩

end

end Value

namespace Expr

def Denoted (e : Expr) : Prop := ∃ json, ofJson json = .ok e

mutual

theorem ordered_toJson : ∀ e : Expr, e.toJson.Ordered
  | .literal value => value.ordered_toJson
  | .list items => .array (ordered_toJsonAll items)
  | .var path none => .single (.text path)
  | .var path (some fallback) => .single <| .array <| List.forall_mem_cons.mpr
      ⟨.text path, List.forall_mem_singleton.mpr (ordered_toJson fallback)⟩
  | .call _ args => .single (.array (ordered_toJsonAll args))

theorem ordered_toJsonAll : ∀ items : List Expr, ∀ json ∈ toJsonAll items, json.Ordered
  | [] => nofun
  | item :: rest => List.forall_mem_cons.mpr ⟨ordered_toJson item, ordered_toJsonAll rest⟩

end

theorem Denoted.survives {e : Expr} (denoted : e.Denoted) :
    Survives Rule.expressionOf e.toJson.toDocument e := by
  obtain ⟨json, read⟩ := denoted
  have written := Json.toJson_toDocument e.ordered_toJson
  refine ⟨e.toJson, written, ?_⟩
  rw [Rule.expressionOf, written]
  dsimp only [bind, Except.bind]
  rw [ofJson_toJson_of_ofJson read]
  rfl

end Expr

theorem Rule.expressionOf_gives (document : Document) :
    Gives Expr.Denoted (Rule.expressionOf document) := by
  refine (Gives.any _).bind fun json _ => ?_
  split
  case h_1 e read => exact .pure ⟨json, read⟩
  case h_2 => exact .error _

/-! ## Attachments of rules -/

namespace RequiredDocument

def entries (d : RequiredDocument) : List (Entry RequiredDocument) :=
  List.zipWith Entry.ofSlot slots
    [ (some (.text d.id), fun x => { x with id := d.id }),
      (some (.text d.name), fun x => { x with name := d.name }),
      (d.description.map .text, fun x => { x with description := d.description }) ]

theorem survives (d : RequiredDocument) : Survives ofDocument d.toDocument d := by
  have written : d.toDocument = .ofFields (Entry.fields d.entries) := by
    unfold toDocument entries
    cases d.description <;> rfl
  have made : Entry.MakeUp ⟨"", "", none⟩ d d.entries := by
    refine ⟨?_, ?_, rfl, List.forall_iff_forall_mem.mp ⟨?_, ?_, ?_⟩⟩
    · exact (by decide : (slots.map Slot.key).Nodup)
    · simp [entries, slots, Entry.ofSlot, Entry.commute_iff]
    · exact Entry.restored_required (survives_text d.id)
    · exact Entry.restored_required (survives_text d.name)
    · exact Entry.restored_option survives_optionalText rfl d.description
  rw [written]
  exact made.survives

end RequiredDocument

namespace NextStep

def entries (step : NextStep) : List (Entry NextStep) :=
  List.zipWith Entry.ofSlot slots
    [ (some (.text step.text), fun x => { x with text := step.text }),
      (step.url.map .text, fun x => { x with url := step.url }) ]

theorem survives (step : NextStep) : Survives ofDocument step.toDocument step := by
  have written : step.toDocument = .ofFields (Entry.fields step.entries) := by
    unfold toDocument entries
    cases step.url <;> rfl
  have made : Entry.MakeUp ⟨"", none⟩ step step.entries := by
    refine ⟨?_, ?_, rfl, List.forall_iff_forall_mem.mp ⟨?_, ?_⟩⟩
    · exact (by decide : (slots.map Slot.key).Nodup)
    · simp [entries, slots, Entry.ofSlot, Entry.commute_iff]
    · exact Entry.restored_required (survives_text step.text)
    · exact Entry.restored_option survives_optionalText rfl step.url
  rw [written]
  exact made.survives

end NextStep

/-! ## Rules -/

namespace Rule

def entries (rule : Rule) : List (Entry Rule) :=
  List.zipWith Entry.ofSlot slots
    [ (some (.text rule.id), fun r => { r with id := rule.id }),
      (some (.text rule.programId), fun r => { r with programId := rule.programId }),
      (some (.text rule.kind.name), fun r => { r with kind := rule.kind }),
      (some (.bool rule.active), fun r => { r with active := rule.active }),
      (some (.bool rule.draft), fun r => { r with draft := rule.draft }),
      (some (.text rule.explanation), fun r => { r with explanation := rule.explanation }),
      (some rule.expression.toJson.toDocument, fun r => { r with expression := rule.expression }),
      (if rule.documents.isEmpty then none
        else some (.ofList RequiredDocument.toDocument rule.documents),
        fun r => { r with documents := rule.documents }),
      (if rule.nextSteps.isEmpty then none
        else some (.ofList NextStep.toDocument rule.nextSteps),
        fun r => { r with nextSteps := rule.nextSteps }),
      (rule.hardStop.map .bool, fun r => { r with hardStop := rule.hardStop }) ]

theorem keys_nodup : (slots.map Slot.key).Nodup := by decide

theorem toDocument_eq (rule : Rule) :
    rule.toDocument = .ofFields (Entry.fields rule.entries) := by
  unfold toDocument entries
  cases rule.documents <;> cases rule.nextSteps <;> cases rule.hardStop <;> rfl

theorem survives {rule : Rule} (denoted : rule.expression.Denoted) :
    Survives ofDocument rule.toDocument rule := by
  have made : Entry.MakeUp (ofExpr "" "" (.literal .null)) rule rule.entries := by
    refine ⟨keys_nodup, ?_, ?_, List.forall_iff_forall_mem.mp
      ⟨?_, ?_, ?_, ?_, ?_, ?_, ?_, ?_, ?_, ?_⟩⟩
    · simp [entries, slots, Entry.ofSlot, Entry.commute_iff]
    · simp [entries, slots, Entry.ofSlot]
    · exact Entry.restored_required (survives_text rule.id)
    · exact Entry.restored_required (survives_text rule.programId)
    · exact Entry.restored_defaulted (survives_kind rule.kind)
    · exact Entry.restored_defaulted (survives_bool rule.active)
    · exact Entry.restored_defaulted (survives_bool rule.draft)
    · exact Entry.restored_defaulted (survives_text rule.explanation)
    · exact Entry.restored_required denoted.survives
    · exact Entry.restored_list (fun d _ => d.survives) rfl
    · exact Entry.restored_list (fun step _ => step.survives) rfl
    · exact Entry.restored_option survives_optionalBool rfl rule.hardStop
  rw [toDocument_eq]
  exact made.survives

theorem denoted_of_ofDocument (document : Document) :
    Gives (·.expression.Denoted) (ofDocument document) := by
  have brings : Slot.Brings (ρ := Rule) (·.expression.Denoted)
      (.required "expression" expressionOf fun x r => { r with expression := x }) :=
    Slot.brings_required fun document e read _ => expressionOf_gives document e read
  -- The slot of the expression is required, and no other slot touches it.
  refine Slot.toRecord_gives keys_nodup ?_ (.inr ⟨_, ?_, brings⟩) document
  · refine List.forall_iff_forall_mem.mp ⟨?_, ?_, ?_, ?_, ?_, ?_, brings.keeps, ?_, ?_, ?_⟩
    all_goals
      first
      | exact Slot.keeps_required fun _ _ _ _ held => held
      | exact Slot.keeps_defaulted fun _ _ _ _ held => held
  · simp [slots]

end Rule

/-! ## Packages -/

namespace ProgramInfo

def entries (info : ProgramInfo) : List (Entry ProgramInfo) :=
  List.zipWith Entry.ofSlot slots
    [ (some (.text info.id), fun x => { x with id := info.id }),
      (some (.text info.name), fun x => { x with name := info.name }),
      (info.category.map fun area => .text area.name,
        fun x => { x with category := info.category }) ]

theorem survives (info : ProgramInfo) : Survives ofDocument info.toDocument info := by
  have written : info.toDocument = .ofFields (Entry.fields info.entries) := by
    unfold toDocument entries
    cases info.category <;> rfl
  have made : Entry.MakeUp ⟨"", "", none⟩ info info.entries := by
    refine ⟨?_, ?_, rfl, List.forall_iff_forall_mem.mp ⟨?_, ?_, ?_⟩⟩
    · exact (by decide : (slots.map Slot.key).Nodup)
    · simp [entries, slots, Entry.ofSlot, Entry.commute_iff]
    · exact Entry.restored_required (survives_text info.id)
    · exact Entry.restored_required (survives_text info.name)
    · exact Entry.restored_option survives_category rfl info.category
  rw [written]
  exact made.survives

end ProgramInfo

namespace Package

def entries (p : Package) : List (Entry Package) :=
  List.zipWith Entry.ofSlot slots
    [ (some (.text p.name), fun r => { r with name := p.name }),
      (some (.text p.description), fun r => { r with description := p.description }),
      (some (.text p.jurisdiction), fun r => { r with jurisdiction := p.jurisdiction }),
      (some (.text p.version), fun r => { r with version := p.version }),
      (some (.ofList ProgramInfo.toDocument p.programs),
        fun r => { r with programs := p.programs }),
      (some (.ofList Rule.toDocument p.rules), fun r => { r with rules := p.rules }) ]

theorem keys_nodup : (slots.map Slot.key).Nodup := by decide

theorem survives {p : Package} (denoted : ∀ rule ∈ p.rules, rule.expression.Denoted) :
    Survives ofDocument p.toDocument p := by
  have made : Entry.MakeUp (named "" "" "") p p.entries := by
    refine ⟨keys_nodup, ?_, ?_, List.forall_iff_forall_mem.mp ⟨?_, ?_, ?_, ?_, ?_, ?_⟩⟩
    · simp [entries, slots, Entry.ofSlot, Entry.commute_iff]
    · simp [entries, slots, Entry.ofSlot]
    · exact Entry.restored_required (survives_text p.name)
    · exact Entry.restored_defaulted (survives_text p.description)
    · exact Entry.restored_required (survives_text p.jurisdiction)
    · exact Entry.restored_required (survives_text p.version)
    · exact Entry.restored_defaulted (Json.survives_ofList fun info _ => info.survives)
    · exact Entry.restored_defaulted
        (Json.survives_ofList fun rule member => Rule.survives (denoted rule member))
  exact made.survives

theorem denoted_of_ofDocument (document : Document) :
    Gives (fun p => ∀ rule ∈ p.rules, rule.expression.Denoted) (ofDocument document) := by
  refine Slot.toRecord_gives keys_nodup ?_ (.inl nofun) document
  refine List.forall_iff_forall_mem.mp ⟨?_, ?_, ?_, ?_, ?_, ?rules⟩
  case rules =>
    exact Slot.keeps_defaulted fun document rules read _ _ =>
      Document.toList_gives Rule.denoted_of_ofDocument document rules read
  all_goals
    first
    | exact Slot.keeps_required fun _ _ _ _ held => held
    | exact Slot.keeps_defaulted fun _ _ _ _ held => held

/-- A package read from JSON, and one built from expressions that JSON denotes,
is written as JSON that is read as the same package, which is as valid as before. -/
theorem survives_json :
    (∀ (json : Json) (p : Package), ofJson json = .ok p →
      ∃ written again, p.toDocument.toJson = .ok written ∧ ofJson written = .ok again ∧
        again = p ∧ again.validate = p.validate) ∧
    (∀ p : Package, (∀ rule ∈ p.rules, ∃ json, Expr.ofJson json = .ok rule.expression) →
      ∃ written again, p.toDocument.toJson = .ok written ∧ ofJson written = .ok again ∧
        again = p ∧ again.validate = p.validate) := by
  have reread : ∀ p : Package, (∀ rule ∈ p.rules, rule.expression.Denoted) →
      ∃ written again, p.toDocument.toJson = .ok written ∧ ofJson written = .ok again ∧
        again = p ∧ again.validate = p.validate := by
    intro p denoted
    obtain ⟨written, writes, reads⟩ := survives denoted
    exact ⟨written, p, writes, Json.decode_eq_ok.mpr reads, rfl, rfl⟩
  refine ⟨fun json p read => reread p ?_, reread⟩
  exact denoted_of_ofDocument json.toDocument p (Json.decode_eq_ok.mp read)

/-- Operands and reads in their short forms, a list of constants, a flag that is
null, and an unknown field; and in code the same rule with attachments. -/
theorem survives_json_of_short_forms :
    let rent : Json := .object
      [ ("in", .array
          [.object [("var", .text "housing")], .array [.text "rent", .number (.natural 2)]]) ]
    let json : Json := .object
      [ ("jurisdiction", .text "US-GA"), ("name", .text "georgia"),
        ("rules", .array [.object
          [ ("expression", .object [("!", rent)]), ("hardStop", .null), ("id", .text "ga-housed"),
            ("note", .text "from 2024"), ("programId", .text "ga-rent") ]]),
        ("version", .text "0.3.1") ]
    let rule : Rule := .ofExpr "ga-housed" "ga-rent"
      (.call "!" [.call "in" [.var "housing" none, .literal (.list [.text "rent", .int 2])]])
    let read : Package := (named "georgia" "US-GA" "0.3.1").withRule rule
    let built : Package := ((named "georgia" "US-GA" "0.3.1").withProgram
      ⟨"ga-rent", "Rent relief", some .housing⟩).withRule
        ((rule.withDocument ⟨"lease", "Lease", some "signed"⟩).withHardStop true)
    ofJson json = .ok read ∧
    ∀ p ∈ [read, built], ∃ written again, p.toDocument.toJson = .ok written ∧
      ofJson written = .ok again ∧ again = p ∧ again.validate = p.validate := by
  intro rent json rule read built
  have reads : ofJson json = .ok read := rfl
  refine ⟨reads, List.forall_mem_cons.mpr ⟨survives_json.1 json read reads, ?_⟩⟩
  refine List.forall_mem_singleton.mpr (survives_json.2 built ?_)
  exact List.forall_mem_singleton.mpr ⟨.object [("!", rent)], rfl⟩

end Package

end Eligibility
