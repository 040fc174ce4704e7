import Eligibility.Expr.Json

/-!
The grammar of rule expressions in JSON. Reading an expression succeeds on the
values of the grammar and on no others.
-/

set_option autoImplicit false

namespace Eligibility.Expr

/-! ## The grammar -/

inductive IsPath : Json → Prop where
  | null : IsPath .null
  | text (s : String) : IsPath (.text s)
  | number (n : Json.Numeral) : IsPath (.number n)

inductive IsOperand : Json → Prop where
  | null : IsOperand .null
  | bool (b : Bool) : IsOperand (.bool b)
  | number (n : Json.Numeral) : IsOperand (.number n)
  | text (s : String) : IsOperand (.text s)
  | array {items : List Json} : (∀ item ∈ items, IsOperand item) → IsOperand (.array items)
  /-- A call with its operands in an array, or with a single one that is no array. -/
  | call {operator : String} {argument : Json} :
      operator ≠ "var" → IsOperand argument → IsOperand (.object [(operator, argument)])
  | read {path : Json} : IsPath path → IsOperand (.object [("var", path)])
  | readNothing : IsOperand (.object [("var", .array [])])
  | readOnly {path : Json} : IsPath path → IsOperand (.object [("var", .array [path])])
  /-- Whatever follows a fallback is passed over. -/
  | readOr {path fallback : Json} {rest : List Json} : IsPath path → IsOperand fallback →
      IsOperand (.object [("var", .array (path :: fallback :: rest))])

/-- Null alone is an operand but no rule. -/
structure IsRule (json : Json) : Prop where
  notNull : json ≠ .null
  operand : IsOperand json

theorem isOperand_array_iff {items : List Json} :
    IsOperand (.array items) ↔ ∀ item ∈ items, IsOperand item :=
  ⟨fun | .array each => each, .array⟩

theorem isOperand_call_iff {operator : String} {argument : Json} (call : operator ≠ "var") :
    IsOperand (.object [(operator, argument)]) ↔ IsOperand argument := by
  constructor
  · intro given
    cases given with
    | call _ operand => exact operand
    | _ => exact absurd rfl call
  · exact .call call

theorem isOperand_read_iff {path : Json} (alone : ∀ items, path ≠ .array items) :
    IsOperand (.object [("var", path)]) ↔ IsPath path := by
  constructor
  · intro given
    cases given with
    | call call _ => exact absurd rfl call
    | read named => exact named
    | _ => exact absurd rfl (alone _)
  · exact .read

theorem isOperand_readOnly_iff {path : Json} :
    IsOperand (.object [("var", .array [path])]) ↔ IsPath path := by
  constructor
  · intro given
    cases given with
    | call call _ => exact absurd rfl call
    | read named => cases named
    | readOnly named => exact named
  · exact .readOnly

theorem isOperand_readOr_iff {path fallback : Json} {rest : List Json} :
    IsOperand (.object [("var", .array (path :: fallback :: rest))]) ↔
      IsPath path ∧ IsOperand fallback := by
  constructor
  · intro given
    cases given with
    | call call _ => exact absurd rfl call
    | read named => cases named
    | readOr named operand => exact ⟨named, operand⟩
  · exact fun ⟨named, operand⟩ => .readOr named operand

/-! ## Reading -/

section
variable {α β : Type} {reading : Except Failure α}

theorem exists_ok_bind {next : α → Except Failure β} :
    (∃ b, (reading >>= next) = .ok b) ↔ ∃ a, reading = .ok a ∧ ∃ b, next a = .ok b := by
  cases reading with
  | error failure => simp [bind, Except.bind]
  | ok a => simp [bind, Except.bind]

theorem exists_ok_bind_pure {f : α → β} :
    (∃ b, (do return f (← reading) : Except Failure β) = .ok b) ↔ ∃ a, reading = .ok a := by
  simp [exists_ok_bind, pure, Except.pure]

end

theorem exists_ok_pathOf {json : Json} : (∃ path, pathOf json = .ok path) ↔ IsPath json := by
  constructor
  · rintro ⟨path, named⟩
    cases json with
    | null => exact .null
    | text s => exact .text s
    | number n => exact .number n
    | bool b => cases named
    | array items => cases named
    | object fields => cases named
  · rintro (_ | s | n)
    · exact ⟨_, rfl⟩
    · exact ⟨_, rfl⟩
    · exact ⟨_, rfl⟩

theorem exists_ok_ofOperands {items : List Json} :
    (∃ operands, ofOperands items = .ok operands) ↔
      ∀ item ∈ items, ∃ e, ofOperand item = .ok e := by
  induction items with
  | nil => simp [ofOperands]
  | cons item rest ih =>
    rw [ofOperands, exists_ok_bind, List.forall_mem_cons, ← ih]
    simp only [exists_ok_bind_pure, exists_and_right]

theorem exists_ok_ofOperand_array {items : List Json} :
    (∃ e, ofOperand (.array items) = .ok e) ↔ ∀ item ∈ items, ∃ e, ofOperand item = .ok e := by
  rw [ofOperand, exists_ok_bind_pure, exists_ok_ofOperands]

theorem exists_ok_ofOperand_call {operator : String} {argument : Json} (call : operator ≠ "var") :
    (∃ e, ofOperand (.object [(operator, argument)]) = .ok e) ↔
      ∃ e, ofOperand argument = .ok e := by
  cases argument with
  | array items =>
    rw [exists_ok_ofOperand_array, ← exists_ok_ofOperands]
    rcases items with _ | ⟨_, _ | _⟩ <;> rw [ofOperand, if_neg call, exists_ok_bind_pure]
  | _ => simp only [ofOperand, if_neg call, exists_ok_bind_pure]

theorem exists_ok_ofOperand_readOr {path fallback : Json} {rest : List Json} :
    (∃ e, ofOperand (.object [("var", .array (path :: fallback :: rest))]) = .ok e) ↔
      IsPath path ∧ ∃ e, ofOperand fallback = .ok e := by
  rw [ofOperand, if_pos rfl, exists_ok_bind]
  simp only [exists_ok_bind_pure, exists_ok_pathOf, exists_and_right]
  exact and_comm

theorem exists_ok_ofOperand : ∀ json : Json, (∃ e, ofOperand json = .ok e) ↔ IsOperand json
  | .null => ⟨fun _ => .null, fun _ => ⟨_, rfl⟩⟩
  | .bool b => ⟨fun _ => .bool b, fun _ => ⟨_, rfl⟩⟩
  | .number n => ⟨fun _ => .number n, fun _ => ⟨_, rfl⟩⟩
  | .text s => ⟨fun _ => .text s, fun _ => ⟨_, rfl⟩⟩
  | .array items => by
    rw [exists_ok_ofOperand_array, isOperand_array_iff]
    exact forall₂_congr fun item _ => exists_ok_ofOperand item
  | .object [] => ⟨nofun, nofun⟩
  | .object (_ :: _ :: _) => ⟨nofun, nofun⟩
  | .object [(operator, argument)] => by
    by_cases call : operator = "var"
    · subst call
      match argument with
      | .array [] => exact ⟨fun _ => .readNothing, fun _ => ⟨_, rfl⟩⟩
      | .array [path] =>
        rw [isOperand_readOnly_iff, ← exists_ok_pathOf]
        exact exists_ok_bind_pure
      | .array (path :: fallback :: rest) =>
        rw [exists_ok_ofOperand_readOr, isOperand_readOr_iff, exists_ok_ofOperand fallback]
      | .null | .bool _ | .number _ | .text _ | .object _ =>
        rw [isOperand_read_iff, ← exists_ok_pathOf]
        · exact exists_ok_bind_pure
        · nofun
    · rw [exists_ok_ofOperand_call call, isOperand_call_iff call]
      exact exists_ok_ofOperand argument

theorem exists_ok_ofJson (json : Json) : (∃ e, ofJson json = .ok e) ↔ IsRule json := by
  cases json with
  | null => exact ⟨nofun, fun rule => absurd rfl rule.notNull⟩
  | _ => exact (exists_ok_ofOperand _).trans ⟨fun operand => ⟨nofun, operand⟩, IsRule.operand⟩

end Eligibility.Expr
