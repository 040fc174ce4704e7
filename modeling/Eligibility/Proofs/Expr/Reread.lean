import Eligibility.Proofs.Number.Finite
import Eligibility.Proofs.Json.Decoder
import Eligibility.Proofs.Expr.RoundTrip

/-!
What reading gives: constants that JSON can write, calls under no name of a
read, and lists of constants folded. An expression that has been read is
therefore the one that its own JSON form denotes.
-/

set_option autoImplicit false

namespace Eligibility

/-! ## Values -/

namespace Value

theorem isFinite_ofNumeral (n : Json.Numeral) : (ofNumeral n).isFinite = true := by
  cases n with
  | natural n =>
    unfold ofNumeral Json.Numeral.toInt64?
    by_cases fits : n.toNat < 0x8000000000000000
    · simp only [if_pos fits, isFinite]
    · -- What no signed word holds is read as a double.
      simp only [if_neg fits, Json.Numeral.toFloat, isFinite]
      exact Number.isFinite_ofNat (by omega) n.toNat_lt
  | negative i below => rfl
  | real x finite => exact finite

mutual

theorem isFinite_ofJson : ∀ json : Json, (ofJson json).isFinite = true
  | .null | .bool _ | .text _ | .object _ => rfl
  | .number n => isFinite_ofNumeral n
  | .array items => areFinite_ofJsonItems items

theorem areFinite_ofJsonItems : ∀ items : List Json, areFinite (ofJsonItems items) = true
  | [] => rfl
  | item :: rest => by
    simp only [ofJsonItems, areFinite, isFinite_ofJson item, areFinite_ofJsonItems rest,
      Bool.and_self]

end

theorem areFinite_iff {items : List Value} :
    areFinite items = true ↔ ∀ item ∈ items, item.isFinite = true := by
  induction items with
  | nil => simp [areFinite]
  | cons item rest ih => simp [areFinite, ih]

end Value

namespace Expr

/-- The form in which expressions are read. -/
structure Settled (e : Expr) : Prop where
  writable : e.Writable
  folded : e.folded = e

theorem settled_collapsed {e : Expr} (named : ∀ args, e ≠ .call "var" args)
    (finite : ∀ value, e = .literal value → value.isFinite = true)
    (operands : ∀ operand ∈ e.operands, operand.Settled) : e.collapsed.Settled := by
  rcases collapsed_cases e with same | ⟨values, rfl, constant⟩
  · have inner : e.mapOperands Expr.folded = e :=
      mapOperands_eq_self fun operand member => (operands operand member).folded
    have inside : ∀ node ∈ e.nodes, node = e ∨ ∃ operand ∈ e.operands, node ∈ operand.nodes := by
      intro node member
      rw [nodes_eq] at member
      simpa using member
    rw [same]
    refine ⟨⟨fun args member => ?_, fun value member => ?_⟩, ?_⟩
    · rcases inside _ member with itself | ⟨operand, below, deeper⟩
      · exact named args itself.symm
      · exact (operands operand below).writable.noneNamedVar args deeper
    · rcases inside _ member with itself | ⟨operand, below, deeper⟩
      · exact finite value itself.symm
      · exact (operands operand below).writable.finite value deeper
    · rw [folded_eq, inner, same]
  · -- The node collapses to one constant, which is a list of settled ones.
    have each : Value.areFinite values = true := by
      refine Value.areFinite_iff.mpr fun value member => ?_
      have operand := operands (.literal value) (List.mem_map_of_mem member)
      exact operand.writable.finite value (self_mem_nodes _)
    rw [constant]
    refine ⟨⟨?_, ?_⟩, rfl⟩
    · simp [nodes]
    · simpa [nodes, Value.isFinite] using each

theorem settled_literal (json : Json) : (Expr.literal (Value.ofJson json)).Settled := by
  refine settled_collapsed (e := .literal (Value.ofJson json)) nofun ?_ nofun
  rintro _ ⟨⟩
  exact Value.isFinite_ofJson json

theorem settled_var (path : String) {fallback : Option Expr}
    (settled : ∀ e ∈ fallback, e.Settled) : (Expr.var path fallback).Settled := by
  refine settled_collapsed (e := .var path fallback) nofun nofun fun operand member => ?_
  cases fallback with
  | none => cases member
  | some e =>
    rw [List.mem_singleton.mp member]
    exact settled e rfl

theorem settled_call {operator : String} {args : List Expr} (called : operator ≠ "var")
    (settled : ∀ arg ∈ args, arg.Settled) : (Expr.call operator args).Settled := by
  refine settled_collapsed (e := .call operator args) ?_ nofun settled
  rintro _ ⟨⟩
  exact called rfl

theorem settled_ofItems {items : List Expr} (settled : ∀ item ∈ items, item.Settled) :
    (ofItems items).Settled := by
  rw [ofItems_eq_collapsed]
  exact settled_collapsed nofun nofun settled

mutual

theorem ofOperand_gives : ∀ json : Json, Gives Settled (ofOperand json)
  | .null => .pure (settled_literal .null)
  | .bool b => .pure (settled_literal (.bool b))
  | .number n => .pure (settled_literal (.number n))
  | .text s => .pure (settled_literal (.text s))
  | .array items => by
    rw [ofOperand]
    exact (ofOperands_gives items).bind fun _ settled => .pure (settled_ofItems settled)
  | .object [] => .error _
  | .object [(operator, argument)] => by
    unfold ofOperand
    split
    case isTrue =>
      split
      · exact .pure (settled_var "" nofun)
      · exact (Gives.any _).bind fun path _ => .pure (settled_var path nofun)
      · rename_i fallback _
        refine (ofOperand_gives fallback).bind fun e settled => (Gives.any _).bind fun path _ => ?_
        exact .pure (settled_var path (by rintro _ ⟨⟩; exact settled))
      · exact (Gives.any _).bind fun path _ => .pure (settled_var path nofun)
    case isFalse called =>
      split
      · rename_i items
        exact (ofOperands_gives items).bind fun _ settled => .pure (settled_call called settled)
      · refine (ofOperand_gives argument).bind fun e settled => .pure (settled_call called ?_)
        exact List.forall_mem_singleton.mpr settled
  | .object (_ :: _ :: _) => .error _

theorem ofOperands_gives : ∀ items : List Json,
    Gives (fun operands => ∀ operand ∈ operands, operand.Settled) (ofOperands items)
  | [] => .pure nofun
  | item :: rest => by
    rw [ofOperands]
    refine (ofOperand_gives item).bind fun operand settled => ?_
    exact (ofOperands_gives rest).bind fun operands others =>
      .pure (List.forall_mem_cons.mpr ⟨settled, others⟩)

end

theorem settled_of_ofJson {json : Json} {e : Expr} (read : ofJson json = .ok e) : e.Settled := by
  unfold ofJson at read
  split at read
  · cases read
  · exact ofOperand_gives json e read

theorem ne_null_of_ofJson {json : Json} : Gives (· ≠ .literal .null) (ofJson json) := by
  cases json with
  | null => exact .error _
  | bool b => exact .pure (by simp [Value.ofJson])
  | text s => exact .pure (by simp [Value.ofJson])
  | number n =>
    refine .pure ?_
    simp only [Value.ofJson, Value.ofNumeral]
    split <;> simp
  | array items =>
    refine (Gives.any _).bind fun operands _ => .pure ?_
    rw [ofItems_eq_collapsed]
    rcases collapsed_cases (.list operands) with same | ⟨values, _, constant⟩
    · simp [same]
    · simp [constant]
  | object fields =>
    rcases fields with _ | ⟨⟨operator, argument⟩, _ | ⟨other, rest⟩⟩
    · exact .error _
    · change Gives _ (ofOperand _)
      unfold ofOperand
      split
      · split
        · exact .pure (by simp)
        · exact (Gives.any _).bind fun _ _ => .pure (by simp)
        · exact (Gives.any _).bind fun _ _ => (Gives.any _).bind fun _ _ => .pure (by simp)
        · exact (Gives.any _).bind fun _ _ => .pure (by simp)
      · split <;> exact (Gives.any _).bind fun _ _ => .pure (by simp)
    · exact .error _

theorem Settled.ofJson_toJson {e : Expr} (settled : e.Settled) (notNull : e ≠ .literal .null) :
    ofJson e.toJson = .ok e := by
  have written := isNull_toJson settled.writable notNull
  have again := ofOperand_toJson settled.writable
  rw [settled.folded] at again
  simp only [ofJson, written, again, Bool.false_eq_true, if_false]

theorem ofJson_toJson_of_ofJson {json : Json} {e : Expr} (read : ofJson json = .ok e) :
    ofJson e.toJson = .ok e := by
  have settled := settled_of_ofJson read
  exact settled.ofJson_toJson (ne_null_of_ofJson e read)

end Expr

end Eligibility
