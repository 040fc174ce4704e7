import Mathlib.Data.List.Basic
import Eligibility.Proofs.Context.Frame
import Eligibility.Proofs.Expr.Folding

/-!
What an evaluation asks of its context. Reads ask for their paths, and two core
operators for paths that they are given as values. Contexts that agree on what
is asked give the same evaluation; and an expression that asks by its reads
alone asks for nothing but its variables.
-/

set_option autoImplicit false

namespace Eligibility

theorem Walk.bind_congr {α β : Type} {walk : Walk α} {next other : α → Walk β}
    (same : ∀ a, walk.result = .ok a → next a = other a) : walk >>= next = walk >>= other := by
  obtain ⟨result, calls⟩ := walk
  cases result with
  | error failure => rfl
  | ok a => simp only [bind, Walk.bind, same a rfl]

theorem Context.isAnswered_congr {first second : Context} {path : String}
    (same : first.get? path = second.get? path) :
    first.isAnswered path = second.isAnswered path := by
  simp only [isAnswered, same]

namespace CoreOperator

def asked (values : List Value) : CoreOperator → List String
  | .missing => (flatten values).map Value.plainText
  | .lookup => [(first values).plainText]
  | _ => []

theorem apply_eq_of_asked {first second : Context} {values : List Value} (core : CoreOperator)
    (agree : ∀ path ∈ core.asked values, first.get? path = second.get? path) :
    core.apply first values = core.apply second values := by
  cases core with
  | missing =>
    have answers : ∀ path ∈ flatten values,
        (!first.isAnswered path.plainText) = !second.isAnswered path.plainText := by
      intro path listed
      rw [Context.isAnswered_congr (agree _ (List.mem_map_of_mem listed))]
    simp only [apply, List.filter_congr answers]
  | lookup =>
    have answer := agree _ (List.mem_singleton_self _)
    simp only [apply, lookUp, answer]
  | _ => rfl

theorem ofName?_eq_missing {operator : String} (named : ofName? operator = some .missing) :
    operator = "missing" := by
  unfold ofName? at named
  split at named <;> first | rfl | cases named

theorem ofName?_eq_lookup {operator : String} (named : ofName? operator = some .lookup) :
    operator = "var" := by
  unfold ofName? at named
  split at named <;> first | rfl | cases named

end CoreOperator

namespace Expr

/-! ## Nodes and reads -/

theorem reads_eq_flatMap_nodes (e : Expr) : e.reads = e.nodes.flatMap ownReads := by
  induction e using operandInduction with
  | step e ih =>
    rw [reads_eq, nodes_eq, List.flatMap_cons, List.flatMap_assoc, List.flatMap_congr ih]

theorem mem_vars_iff {e : Expr} {path : String} :
    path ∈ e.vars ↔ path ≠ "" ∧ ∃ fallback, .var path fallback ∈ e.nodes := by
  have own : ∀ node : Expr, path ∈ node.ownReads ↔ ∃ fallback, node = .var path fallback := by
    intro node
    cases node <;> simp [ownReads, eq_comm]
  simp only [vars, mem_distinct, List.mem_filter, reads_eq_flatMap_nodes, List.mem_flatMap, own,
    bne_iff_ne]
  constructor
  · rintro ⟨⟨node, inside, fallback, rfl⟩, named⟩
    exact ⟨named, fallback, inside⟩
  · rintro ⟨named, fallback, inside⟩
    exact ⟨⟨_, inside, fallback, rfl⟩, named⟩

/-! ## What is asked -/

section
variable (ctx : Context) (scope : Scope)

def ownAsked : Expr → List String
  | .var path _ => [path]
  | .call operator args =>
    match CoreOperator.ofName? operator, (evaluateAll ctx scope args).result with
    | some core, .ok values => core.asked values
    | _, _ => []
  | _ => []

/-- Every path that a node of the expression asks for, whether evaluation
reaches the node or not. -/
def asked (e : Expr) : List String := e.nodes.flatMap (ownAsked ctx scope)

theorem ownAsked_subset_asked (e : Expr) : e.ownAsked ctx scope ⊆ e.asked ctx scope :=
  fun _ own => List.mem_flatMap.mpr ⟨e, self_mem_nodes e, own⟩

theorem asked_subset {e operand : Expr} (member : operand ∈ e.operands) :
    operand.asked ctx scope ⊆ e.asked ctx scope := by
  intro path found
  obtain ⟨node, inside, own⟩ := List.mem_flatMap.mp found
  exact List.mem_flatMap.mpr ⟨node, nodes_subset member inside, own⟩

theorem vars_subset_asked (e : Expr) : e.vars ⊆ e.asked ctx scope := by
  intro path read
  obtain ⟨_, fallback, inside⟩ := mem_vars_iff.mp read
  exact List.mem_flatMap.mpr ⟨_, inside, List.mem_singleton_self path⟩

end

/-! ## Evaluation in contexts that agree -/

section
variable {first second : Context} {scope : Scope}

theorem layer_eq_of_ownAsked {e : Expr}
    (agree : ∀ path ∈ e.ownAsked first scope, first.get? path = second.get? path) :
    layer first scope (evaluate first scope) e = layer second scope (evaluate first scope) e := by
  cases e with
  | literal value => rfl
  | list items => rfl
  | var path fallback =>
    have answer := agree path (List.mem_singleton_self path)
    cases fallback <;> simp only [layer, answer]
  | call operator args =>
    simp only [layer]
    split
    · rfl
    · rfl
    · rfl
    · -- The operator is applied to what its operands come to in the first context.
      rw [← evaluateAll_eq_inTurn]
      refine Walk.bind_congr fun values came => ?_
      unfold applied
      cases named : CoreOperator.ofName? operator with
      | none => rfl
      | some core =>
        have own : (Expr.call operator args).ownAsked first scope = core.asked values := by
          simp only [ownAsked, named, came]
        have answers : core.apply first values = core.apply second values :=
          core.apply_eq_of_asked (own ▸ agree)
        simp only [answers]

theorem evaluate_eq_of_asked {e : Expr}
    (agree : ∀ path ∈ e.asked first scope, first.get? path = second.get? path) :
    e.evaluate first scope = e.evaluate second scope := by
  -- What is asked is taken from the first context at every level, so the operands
  -- of `missing` have the same values in both by the time they are asked for.
  induction e using operandInduction with
  | step e ih =>
    have own : ∀ path ∈ e.ownAsked first scope, first.get? path = second.get? path :=
      fun path found => agree path (ownAsked_subset_asked first scope e found)
    have inner : ∀ operand ∈ e.operands,
        operand.evaluate first scope = operand.evaluate second scope :=
      fun operand member => ih operand member fun path found =>
        agree path (asked_subset first scope member found)
    calc e.evaluate first scope
        = layer first scope (evaluate first scope) e := evaluate_eq_layer first scope e
      _ = layer second scope (evaluate first scope) e := layer_eq_of_ownAsked own
      _ = layer second scope (evaluate second scope) e := layer_congr second scope inner
      _ = e.evaluate second scope := (evaluate_eq_layer second scope e).symm

end

/-! ## Expressions that ask by name -/

structure ReadsByName (e : Expr) : Prop where
  noneMissing : ∀ args, .call "missing" args ∉ e.nodes
  noneNamedVar : ∀ args, .call "var" args ∉ e.nodes
  named : ∀ fallback, .var "" fallback ∉ e.nodes

theorem ownAsked_cases {ctx : Context} {scope : Scope} {node : Expr} {path : String}
    (own : path ∈ node.ownAsked ctx scope) :
    (∃ fallback, node = .var path fallback) ∨
      ∃ operator args values core, node = .call operator args ∧
        CoreOperator.ofName? operator = some core ∧ path ∈ core.asked values := by
  cases node with
  | literal value => cases own
  | list items => cases own
  | var read fallback =>
    obtain rfl := List.mem_singleton.mp own
    exact .inl ⟨fallback, rfl⟩
  | call operator args =>
    cases named : CoreOperator.ofName? operator with
    | none =>
      simp only [ownAsked, named] at own
      cases own
    | some core =>
      cases came : (evaluateAll ctx scope args).result with
      | error failure =>
        simp only [ownAsked, named, came] at own
        cases own
      | ok values =>
        simp only [ownAsked, named, came] at own
        exact .inr ⟨operator, args, values, core, rfl, named, own⟩

theorem ReadsByName.asked_subset_vars {e : Expr} (byName : e.ReadsByName) (ctx : Context)
    (scope : Scope) : e.asked ctx scope ⊆ e.vars := by
  intro path found
  obtain ⟨node, inside, own⟩ := List.mem_flatMap.mp found
  rcases ownAsked_cases own with ⟨fallback, rfl⟩ | ⟨operator, args, values, core, rfl, named, own⟩
  · refine mem_vars_iff.mpr ⟨?_, fallback, inside⟩
    rintro rfl
    exact byName.named fallback inside
  · cases core with
    | missing =>
      obtain rfl := CoreOperator.ofName?_eq_missing named
      exact absurd inside (byName.noneMissing args)
    | lookup =>
      obtain rfl := CoreOperator.ofName?_eq_lookup named
      exact absurd inside (byName.noneNamedVar args)
    | _ => cases own

/-- What an expression that asks by name comes to, and the calls it makes on the
way, depend on its variables alone. So no write and no field of the data that
overlaps none of them makes a difference. -/
theorem evaluate_depends_on_vars {e : Expr} (byName : e.ReadsByName) (scope : Scope) :
    (∀ first second : Context, (∀ path ∈ e.vars, first.get? path = second.get? path) →
      e.evaluate first scope = e.evaluate second scope) ∧
    (∀ (ctx : Context) (written : String) (value : Value),
      (∀ path ∈ e.vars, (Path.ofText written).overlaps (Path.ofText path) = false) →
      e.evaluate (ctx.insert written value) scope = e.evaluate ctx scope) ∧
    (∀ fields wider : List (String × Json),
      (Context.writesOf wider).filter (Context.touches e.vars) =
        (Context.writesOf fields).filter (Context.touches e.vars) →
      ∃ ctx other, Context.ofJson (.object fields) = .ok ctx ∧
        Context.ofJson (.object wider) = .ok other ∧
        e.evaluate other scope = e.evaluate ctx scope) := by
  have agreeing : ∀ first second : Context,
      (∀ path ∈ e.vars, first.get? path = second.get? path) →
      e.evaluate first scope = e.evaluate second scope := by
    intro first second agree
    exact evaluate_eq_of_asked fun path found =>
      agree path (byName.asked_subset_vars first scope found)
  refine ⟨agreeing, ?_, ?_⟩
  · intro ctx written value apart
    exact agreeing _ _ fun path read => ctx.get?_insert_of_apart (apart path read) value
  · intro fields wider same
    refine ⟨_, _, Context.ofJson_object fields, Context.ofJson_object wider, ?_⟩
    exact agreeing _ _ fun path read => Context.get?_insertAll_of_touches read .empty same

/-- Data with a pet in the household and a field that no rule knows. -/
theorem evaluate_depends_on_vars_of_household :
    let e : Expr := .call "and" [
      .call "!" [.var "isPregnant" none],
      .call "probe" [.list [.var "household.head" (some (.var "contact" none))]]]
    let scope : Scope := ⟨Registry.empty.register "probe" fun args => .ok (.list args), none⟩
    let fields : List (String × Json) :=
      [("household", .object [("head", .text "Ann")]), ("isPregnant", .bool false)]
    let wider : List (String × Json) :=
      [("favouriteColour", .text "teal"),
        ("household", .object [("head", .text "Ann"), ("pets", .array [.text "cat"])]),
        ("isPregnant", .bool false)]
    e.ReadsByName ∧
    (Context.writesOf wider).filter (Context.touches e.vars) =
      (Context.writesOf fields).filter (Context.touches e.vars) ∧
    ∃ ctx other, Context.ofJson (.object fields) = .ok ctx ∧
      Context.ofJson (.object wider) = .ok other ∧
      e.evaluate other scope = e.evaluate ctx scope ∧
      (e.evaluate ctx scope).calls = [⟨"probe", [.list [.text "Ann"]]⟩] := by
  intro e scope fields wider
  have byName : e.ReadsByName :=
    { noneMissing := by simp [e, nodes, nodesOfAll]
      noneNamedVar := by simp [e, nodes, nodesOfAll]
      named := by simp [e, nodes, nodesOfAll] }
  have same : (Context.writesOf wider).filter (Context.touches e.vars) =
      (Context.writesOf fields).filter (Context.touches e.vars) := by rfl
  obtain ⟨ctx, other, parsed, parsedWider, equal⟩ :=
    (evaluate_depends_on_vars byName scope).2.2 fields wider same
  refine ⟨byName, same, ctx, other, parsed, parsedWider, equal, ?_⟩
  obtain rfl : _ = ctx := Except.ok.inj parsed
  rfl

end Expr

end Eligibility
