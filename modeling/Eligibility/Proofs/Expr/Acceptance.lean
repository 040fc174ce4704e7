import Eligibility.Proofs.Evaluation.EntryPoints
import Eligibility.Proofs.Expr.Grammar
import Eligibility.Proofs.Expr.Reread

/-!
What reading a rule accepts, and what it gives. The values of the grammar are
read and no others; everything else is refused as an invalid rule; and what has
been read has a form of its own, which no other expression has.
-/

set_option autoImplicit false

namespace Eligibility.Expr

/-- The form of the expressions that are read. -/
structure ReadForm (e : Expr) : Prop where
  noneNamedVar : ∀ args, .call "var" args ∉ e.nodes
  /-- A list of constants alone would be a constant. -/
  open_ : ∀ items, .list items ∈ e.nodes → ∃ item ∈ items, ∀ value, item ≠ .literal value
  finite : ∀ value, .literal value ∈ e.nodes → value.isFinite = true

theorem isLiteral_eq_false_iff {e : Expr} :
    e.isLiteral = false ↔ ∀ value, e ≠ .literal value := by
  cases e <;> simp [isLiteral]

theorem Settled.readForm {e : Expr} (settled : e.Settled) : e.ReadForm where
  noneNamedVar := settled.writable.noneNamedVar
  open_ items inside := by
    have notAll := open_of_folded_eq_self settled.folded inside
    obtain ⟨item, member, notConstant⟩ := List.all_eq_false.mp notAll
    exact ⟨item, member, isLiteral_eq_false_iff.mp (Bool.eq_false_iff.mpr notConstant)⟩
  finite := settled.writable.finite

theorem ReadForm.settled {e : Expr} (form : e.ReadForm) : e.Settled where
  writable := ⟨form.noneNamedVar, form.finite⟩
  folded := by
    apply folded_eq_self
    intro items inside
    obtain ⟨item, member, notConstant⟩ := form.open_ items inside
    exact List.all_eq_false.mpr
      ⟨item, member, Bool.eq_false_iff.mp (isLiteral_eq_false_iff.mpr notConstant)⟩

/-- Reading succeeds on the rules of the grammar alone, and tells of every other
value that the rule is invalid. What it gives is in read form, and nothing in read
form but the constant null is missing. -/
theorem ofJson_accepts_rules :
    (∀ json, (∃ e, ofJson json = .ok e) ↔ IsRule json) ∧
    (∀ json failure, ofJson json = .error failure → failure.code = .invalidRule) ∧
    (∀ e, (∃ json, ofJson json = .ok e) ↔ e.ReadForm ∧ e ≠ .literal .null) := by
  refine ⟨exists_ok_ofJson, ofJson_blamesRule, fun e => ⟨?_, ?_⟩⟩
  · rintro ⟨json, read⟩
    exact ⟨(settled_of_ofJson read).readForm, ne_null_of_ofJson e read⟩
  · rintro ⟨form, notNull⟩
    exact ⟨e.toJson, form.settled.ofJson_toJson notNull⟩

/-- An object without keys is passed over behind a fallback, and refused as one. -/
theorem ofJson_accepts_rules_behind_fallback :
    let rule (operands : List Json) : Json :=
      .object [("or", .array [.null, .object [("var", .array (.text "age" :: operands))]])]
    let fallback : Json := .array [.bool true, .object [("var", .null)]]
    let e : Expr :=
      .call "or" [.literal .null, .var "age" (some (.list [.literal (.bool true), .var "" none]))]
    ofJson (rule [fallback, .object []]) = .ok e ∧ e.ReadForm ∧
      IsRule (rule [fallback, .object []]) ∧
      ¬ IsRule (rule [.object []]) ∧
      ∃ failure, ofJson (rule [.object []]) = .error failure ∧ failure.code = .invalidRule := by
  intro rule fallback e
  obtain ⟨accepts, blames, gives⟩ := ofJson_accepts_rules
  have read : ofJson (rule [fallback, .object []]) = .ok e := rfl
  have refused : ofJson (rule [.object []]) = .error (.invalidRule (.keyCount 0)) := rfl
  have form : e.ReadForm := ((gives e).mp ⟨_, read⟩).1
  refine ⟨read, form, (accepts _).mp ⟨e, read⟩, fun given => ?_, _, refused, blames _ _ refused⟩
  obtain ⟨_, again⟩ := (accepts _).mpr given
  rw [refused] at again
  cases again

end Eligibility.Expr
