import Eligibility.Evaluation.Evaluator
import Eligibility.Proofs.Evaluation.Failures

/-!
What a name means in an expression. The names of the language mean what they
mean, whatever is registered under them; every other name means the operator
that the scope has for it. An overlay on a registry is thus as good as one
registry that holds both.
-/

set_option autoImplicit false

namespace Eligibility

namespace Registry

theorem get?_register (registry : Registry) (name other : String) (operator : Operator) :
    (registry.register name operator).get? other =
      if name = other then some operator else registry.get? other := by
  unfold get? register
  split
  · subst other
    exact Keyed.find?_insert_self name operator _
  · exact Keyed.find?_insert_of_ne ‹_› operator _

theorem contains_eq_isSome (registry : Registry) (name : String) :
    registry.contains name = (registry.get? name).isSome := rfl

theorem get?_registerMissing (registry : Registry) (operators : List (String × Operator))
    (name : String) :
    (registry.registerMissing operators).get? name =
      (registry.get? name).or (Keyed.find? name operators) := by
  unfold registerMissing
  induction operators generalizing registry with
  | nil => simp
  | cons entry rest ih =>
    obtain ⟨own, operator⟩ := entry
    rw [List.foldl_cons, ih, contains_eq_isSome, Keyed.find?]
    -- The first of several entries under a name is bound, as a lookup finds the first.
    by_cases same : own = name
    · subst own
      cases bound : registry.get? name <;> simp [bound, get?_register]
    · cases bound : registry.get? own <;> simp [same, get?_register]

end Registry

def coreNames : List String :=
  ["and", "or", "if", "?:", "==", "!=", "===", "!==", "<", "<=", ">", ">=", "!", "!!", "+", "-",
    "*", "/", "%", "min", "max", "in", "cat", "missing", "var"]

theorem mem_coreNames_iff {name : String} :
    name ∈ coreNames ↔ (Connective.ofName? name).isSome ∨ (CoreOperator.ofName? name).isSome := by
  constructor
  · revert name
    decide
  · intro named
    rcases named with named | named
    · unfold Connective.ofName? at named
      split at named <;> simp_all [coreNames]
    · unfold CoreOperator.ofName? at named
      split at named <;> simp_all [coreNames]

namespace Expr

variable (ctx : Context) {first second : Scope}

theorem applied_congr_scope {operator : String} (values : List Value)
    (free : Connective.ofName? operator = none)
    (same : operator ∉ coreNames → first.get? operator = second.get? operator) :
    applied ctx first operator values = applied ctx second operator values := by
  unfold applied
  cases core : CoreOperator.ofName? operator with
  | some core => rfl
  | none =>
    have registered : operator ∉ coreNames := by
      rw [mem_coreNames_iff, free, core]
      decide
    simp only [Scope.call, same registered]

theorem layer_congr_scope {inner : Expr → Walk Value} {e : Expr}
    (same : ∀ name ∈ e.operators, name ∉ coreNames → first.get? name = second.get? name) :
    layer ctx first inner e = layer ctx second inner e := by
  cases e with
  | call operator args =>
    cases named : Connective.ofName? operator with
    | some connective =>
      simp only [layer, named]
      cases connective <;> rfl
    | none =>
      have own := same operator List.mem_cons_self
      simp only [layer, named, applied_congr_scope ctx _ named own]
  | var path fallback => cases fallback <;> rfl
  | _ => rfl

theorem evaluate_congr_scope {e : Expr}
    (same : ∀ name ∈ e.operators, name ∉ coreNames → first.get? name = second.get? name) :
    e.evaluate ctx first = e.evaluate ctx second := by
  induction e using operandInduction with
  | step e ih =>
    have inner : ∀ operand ∈ e.operands, operand.evaluate ctx first = operand.evaluate ctx second :=
      fun operand member => ih operand member fun name called =>
        same name (operators_subset member called)
    calc e.evaluate ctx first
        = layer ctx first (evaluate ctx first) e := evaluate_eq_layer ctx first e
      _ = layer ctx first (evaluate ctx second) e := layer_congr ctx first inner
      _ = layer ctx second (evaluate ctx second) e := layer_congr_scope ctx same
      _ = e.evaluate ctx second := (evaluate_eq_layer ctx second e).symm

end Expr

def Registry.over (overlay base : Registry) : Registry := overlay.registerMissing base.entries

theorem Registry.get?_over (overlay base : Registry) (name : String) :
    (overlay.over base).get? name = (overlay.get? name).or (base.get? name) :=
  get?_registerMissing overlay base.entries name

theorem Scope.get?_merged (base overlay : Registry) (name : String) :
    Scope.get? ⟨base, some overlay⟩ name = Scope.get? ⟨overlay.over base, none⟩ name :=
  (overlay.get?_over base name).symm

namespace Evaluator

variable {first second : Evaluator} {mine yours : Option Registry} {e : Expr} {ctx : Context}
  (walks : e.evaluate ctx ⟨first.registry, mine⟩ = e.evaluate ctx ⟨second.registry, yours⟩)
include walks

/-- The depth guard and the mode of an evaluation do not look at operators. -/
theorem run_congr (options : EvaluationOptions) :
    first.run e ctx { options with operators := mine } =
      second.run e ctx { options with operators := yours } := by
  simp only [run, walk, scope, walks]
  rfl

theorem runWithin_congr (race : Race) (options : EvaluationOptions) :
    first.runWithin race e ctx { options with operators := mine } =
      second.runWithin race e ctx { options with operators := yours } := by
  simp only [runWithin, scope, walks]
  rfl

end Evaluator

/-- An overlay evaluates as the merged registry does, call by call; and scopes
matter only for the names in an expression that the language leaves to them. -/
theorem overlay_evaluates_as_merged (e : Expr) (ctx : Context) :
    (∀ base overlay : Registry,
      (∀ name, (overlay.over base).get? name = (overlay.get? name).or (base.get? name)) ∧
      e.evaluate ctx ⟨base, some overlay⟩ = e.evaluate ctx ⟨overlay.over base, none⟩ ∧
      ∀ options : EvaluationOptions,
        Evaluator.run ⟨base⟩ e ctx { options with operators := some overlay } =
          Evaluator.run ⟨overlay.over base⟩ e ctx { options with operators := none } ∧
        ∀ race, Evaluator.runWithin ⟨base⟩ race e ctx { options with operators := some overlay } =
          Evaluator.runWithin ⟨overlay.over base⟩ race e ctx { options with operators := none }) ∧
    ∀ first second : Scope,
      (∀ name ∈ e.operators, name ∉ coreNames → first.get? name = second.get? name) →
      e.evaluate ctx first = e.evaluate ctx second := by
  refine ⟨fun base overlay => ?_, fun first second same => Expr.evaluate_congr_scope ctx same⟩
  have merged : e.evaluate ctx ⟨base, some overlay⟩ = e.evaluate ctx ⟨overlay.over base, none⟩ :=
    Expr.evaluate_congr_scope ctx fun name _ _ => Scope.get?_merged base overlay name
  refine ⟨overlay.get?_over base, merged, fun options => ⟨?_, fun race => ?_⟩⟩
  · exact Evaluator.run_congr merged options
  · exact Evaluator.runWithin_congr merged race options

/-- Two scopes that bind names of the language, each its own, and agree on the
one operator that is not: nothing is called but that operator. -/
theorem overlay_evaluates_as_merged_of_core_bindings :
    let loud : Operator := fun _ => .error (.refused "bound to a name of the language")
    let probe : Operator := fun args => .ok (.list args)
    let e : Expr := .call "cat" [.literal (.text "a"), .call "probe" [.literal .null]]
    let first : Scope := ⟨(Registry.empty.register "cat" loud).register "probe" loud,
      some (Registry.empty.register "probe" probe)⟩
    let second : Scope := ⟨(Registry.empty.register "probe" probe).register "==" loud, none⟩
    (∀ name ∈ e.operators, name ∉ coreNames → first.get? name = second.get? name) ∧
    (first.get? "cat").isSome ∧ (second.get? "cat").isNone ∧
    e.evaluate .empty first = e.evaluate .empty second ∧
    (e.evaluate .empty first).calls = [⟨"probe", [.null]⟩] := by
  intro loud probe e first second
  have agree : ∀ name ∈ e.operators, name ∉ coreNames → first.get? name = second.get? name := by
    intro name called registered
    have named : name = "cat" ∨ name = "probe" := by
      simpa [e, Expr.operators, Expr.operatorsOfAll] using called
    rcases named with rfl | rfl
    · exact absurd (by decide) registered
    · rfl
  have alike := (overlay_evaluates_as_merged e .empty).2 first second agree
  refine ⟨agree, rfl, rfl, alike, ?_⟩
  rw [alike]
  rfl

end Eligibility
