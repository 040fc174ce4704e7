import Eligibility.Proofs.Expr.Folding

/-!
Expressions through their JSON form: what is read back is the expression with
its constants folded, since an array of constants denotes one constant.
-/

set_option autoImplicit false

namespace Eligibility

/-! ## Values -/

namespace Value

mutual

def isFinite : Value → Bool
  | .float x => Number.isFinite x
  | .list items => areFinite items
  | _ => true

def areFinite : List Value → Bool
  | [] => true
  | item :: rest => isFinite item && areFinite rest

end

mutual

/-- The value with null for each double that is not finite. -/
def finitePart : Value → Value
  | .float x => if Number.isFinite x then .float x else .null
  | .list items => .list (finiteParts items)
  | value => value

def finiteParts : List Value → List Value
  | [] => []
  | item :: rest => finitePart item :: finiteParts rest

end

mutual

theorem finitePart_eq_self : ∀ value : Value, value.isFinite = true → value.finitePart = value
  | .null, _ | .bool _, _ | .int _, _ | .text _, _ => rfl
  | .float _, finite => if_pos finite
  | .list items, finite => congrArg Value.list (finiteParts_eq_self items finite)

theorem finiteParts_eq_self : ∀ items : List Value, areFinite items = true →
    finiteParts items = items
  | [], _ => rfl
  | item :: rest, finite => by
    simp only [areFinite, Bool.and_eq_true] at finite
    rw [finiteParts, finitePart_eq_self item finite.1, finiteParts_eq_self rest finite.2]

end

mutual

theorem ofJson_toJson : ∀ value : Value, ofJson value.toJson = value.finitePart
  | .null | .bool _ | .text _ => rfl
  | .int i => ofJson_ofInt64 i
  | .float x => by
    by_cases finite : Number.isFinite x = true
    · exact (ofJson_ofFloat finite).trans (if_pos finite).symm
    · simp [toJson, Json.ofFloat, Json.Numeral.ofFloat?, finite, ofJson, finitePart]
  | .list items => congrArg Value.list (ofJsonItems_toJsonItems items)

theorem ofJsonItems_toJsonItems : ∀ items : List Value,
    ofJsonItems (toJsonItems items) = finiteParts items
  | [] => rfl
  | item :: rest => by
    rw [toJsonItems, ofJsonItems, ofJson_toJson item, ofJsonItems_toJsonItems rest, finiteParts]

end

end Value

namespace Expr

/-! ## Arrays -/

theorem mapM_literal? (items : List Expr) :
    items.mapM literal? =
      if items.all isLiteral then some (items.filterMap literal?) else none := by
  induction items with
  | nil => rfl
  | cons item rest ih =>
    cases item with
    | literal value =>
      rw [List.mapM_cons, ih]
      by_cases constant : rest.all isLiteral = true
      · simp [literal?, isLiteral, constant]
      · simp [literal?, isLiteral, constant]
    | list items => simp [List.mapM_cons, literal?, isLiteral]
    | var path fallback => simp [List.mapM_cons, literal?, isLiteral]
    | call operator args => simp [List.mapM_cons, literal?, isLiteral]

theorem ofItems_eq_collapsed (items : List Expr) : ofItems items = (Expr.list items).collapsed := by
  unfold ofItems
  rw [mapM_literal?]
  by_cases constant : items.all isLiteral = true
  · simp only [collapsed, constant, if_true]
  · simp only [collapsed, constant]; rfl

theorem ofItems_literals (values : List Value) :
    ofItems (values.map .literal) = .literal (.list values) := by
  have constant : (values.map Expr.literal).all isLiteral = true := by
    simp [isLiteral]
  have read : (values.map Expr.literal).filterMap literal? = values := by
    simp [List.filterMap_map, Function.comp_def, literal?]
  rw [ofItems_eq_collapsed]
  simp only [collapsed, constant, read, if_true]

mutual

theorem ofOperand_value : ∀ value : Value,
    ofOperand value.toJson = .ok (.literal (Value.ofJson value.toJson))
  | .null => rfl
  | .bool _ => rfl
  | .int _ => rfl
  | .float _ => by
    simp only [Value.toJson, Json.ofFloat]
    split <;> rfl
  | .text _ => rfl
  | .list items => by
    simp only [Value.toJson, ofOperand, ofOperands_values items, Value.ofJson]
    exact congrArg Except.ok (ofItems_literals _)

theorem ofOperands_values : ∀ values : List Value,
    ofOperands (Value.toJsonItems values) =
      .ok ((Value.ofJsonItems (Value.toJsonItems values)).map .literal)
  | [] => rfl
  | value :: rest => by
    simp only [Value.toJsonItems, ofOperands, ofOperand_value value, ofOperands_values rest]
    rfl

end

/-! ## Expressions -/

/-- What JSON forms can tell apart: a call named as a read is would be read as a
read, and a double that is not finite has no form. -/
structure Writable (e : Expr) : Prop where
  noneNamedVar : ∀ args, .call "var" args ∉ e.nodes
  finite : ∀ value, .literal value ∈ e.nodes → value.isFinite = true

theorem Writable.operand {e operand : Expr} (writable : e.Writable)
    (member : operand ∈ e.operands) : operand.Writable where
  noneNamedVar args inside := writable.noneNamedVar args (nodes_subset member inside)
  finite value inside := writable.finite value (nodes_subset member inside)

theorem ofOperands_toJsonAll {items : List Expr}
    (each : ∀ item ∈ items, ofOperand item.toJson = .ok item.folded) :
    ofOperands (toJsonAll items) = .ok (foldedAll items) := by
  induction items with
  | nil => rfl
  | cons item rest ih =>
    have others := ih fun later member => each later (List.mem_cons_of_mem _ member)
    simp only [toJsonAll, ofOperands, each item List.mem_cons_self, others]
    rfl

theorem ofOperand_toJson {e : Expr} (writable : e.Writable) :
    ofOperand e.toJson = .ok e.folded := by
  induction e using operandInduction with
  | step e ih =>
    have operands : ∀ operand ∈ e.operands, ofOperand operand.toJson = .ok operand.folded :=
      fun operand member => ih operand member (writable.operand member)
    cases e with
    | literal value =>
      have finite := writable.finite value (self_mem_nodes _)
      simp only [toJson, ofOperand_value, Value.ofJson_toJson, value.finitePart_eq_self finite, folded]
    | list items =>
      have all : ofOperands (toJsonAll items) = .ok (foldedAll items) :=
        ofOperands_toJsonAll operands
      simp only [toJson, ofOperand, all, folded]
      -- The reader collapses the array once its items are read, as folding does.
      exact congrArg Except.ok (ofItems_eq_collapsed _)
    | var path fallback =>
      cases fallback with
      | none => rfl
      | some fallback =>
        simp only [toJson, ofOperand, operands fallback List.mem_cons_self]
        rfl
    | call operator args =>
      -- An object under `var` would be read as a read of the context.
      have named : operator ≠ "var" := by
        rintro rfl
        exact writable.noneNamedVar args (self_mem_nodes _)
      have all : ofOperands (toJsonAll args) = .ok (foldedAll args) := ofOperands_toJsonAll operands
      unfold toJson ofOperand
      simp only [named, if_false, all]
      rfl

theorem isNull_toJson {e : Expr} (writable : e.Writable) (notNull : e ≠ .literal .null) :
    e.toJson.isNull = false := by
  cases e with
  | literal value =>
    cases value with
    | null => exact absurd rfl notNull
    | float x =>
      have finite : Number.isFinite x = true := writable.finite _ (self_mem_nodes _)
      simp [toJson, Value.toJson, Json.ofFloat, Json.Numeral.ofFloat?, finite, Json.isNull]
    | bool b => rfl
    | int i => rfl
    | text s => rfl
    | list items => rfl
  | list items => rfl
  | var path fallback => cases fallback <;> rfl
  | call operator args => rfl

/-- The JSON form keeps the meaning. What is read back is the folded expression:
it evaluates alike, calls of registered operators included, reads the same paths
and is no deeper, and it is the expression itself when no list is made of
constants alone. -/
theorem json_form_keeps_meaning {e : Expr} (writable : e.Writable) (notNull : e ≠ .literal .null) :
    ofJson e.toJson = .ok e.folded ∧
      (∀ ctx scope, e.folded.evaluate ctx scope = e.evaluate ctx scope) ∧
      e.folded.vars = e.vars ∧
      e.folded.depth ≤ e.depth ∧
      ((∀ items, .list items ∈ e.nodes → items.all isLiteral = false) →
        ofJson e.toJson = .ok e) := by
  have read : ofJson e.toJson = .ok e.folded := by
    simp [ofJson, isNull_toJson writable notNull, ofOperand_toJson writable]
  refine ⟨read, fun ctx scope => evaluate_folded ctx scope e, vars_folded e, depth_folded_le e, ?_⟩
  intro open_
  rw [read, folded_eq_self open_]

/-- A rule with constants two lists deep, also below a fallback, beside a list
that reads the context. -/
def tiered : Expr :=
  .call "in" [
    .list [.var "age" none, .list []],
    .var "tiers" (some (.list [.literal .null, .list [.literal (.int (-3))]]))]

theorem json_form_keeps_meaning_of_tiered :
    tiered.Writable ∧ tiered ≠ .literal .null ∧
      ofJson tiered.toJson =
        .ok (.call "in" [
          .list [.var "age" none, .literal (.list [])],
          .var "tiers" (some (.literal (.list [.null, .list [.int (-3)]])))]) ∧
      (∀ ctx scope, tiered.folded.evaluate ctx scope = tiered.evaluate ctx scope) ∧
      tiered.folded.vars = ["age", "tiers"] ∧ tiered.folded.depth ≤ 4 := by
  have writable : tiered.Writable :=
    { noneNamedVar := by simp [tiered, nodes, nodesOfAll]
      finite := by simp [tiered, nodes, nodesOfAll, Value.isFinite] }
  have notNull : tiered ≠ .literal .null := by simp [tiered]
  obtain ⟨read, evaluates, vars, depth, _⟩ := json_form_keeps_meaning writable notNull
  refine ⟨writable, notNull, read, evaluates, vars.trans ?_, depth⟩
  rfl

end Expr

end Eligibility
