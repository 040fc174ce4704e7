import Eligibility.Expr.Json
import Eligibility.Proofs.Evaluation.Layer

/-!
Folding of constants: a list of constants becomes the constant list of their
values, from the leaves up. The folded expression evaluates as the expression
does, calls included, reads the same paths and is no deeper.
-/

set_option autoImplicit false

namespace Eligibility.Expr

/-! ## One node -/

def collapsed : Expr → Expr
  | .list items =>
    if items.all isLiteral then .literal (.list (items.filterMap literal?)) else .list items
  | other => other

theorem eq_map_literal {items : List Expr} (constant : items.all isLiteral = true) :
    items = (items.filterMap literal?).map .literal := by
  induction items with
  | nil => rfl
  | cons item rest ih =>
    simp only [List.all_cons, Bool.and_eq_true] at constant
    cases item with
    | literal value => simpa [literal?] using ih constant.2
    | list items => cases constant.1
    | var path fallback => cases constant.1
    | call operator args => cases constant.1

theorem collapsed_cases (e : Expr) :
    e.collapsed = e ∨
      ∃ values, e = .list (values.map .literal) ∧ e.collapsed = .literal (.list values) := by
  cases e with
  | literal value => exact .inl rfl
  | var path fallback => exact .inl rfl
  | call operator args => exact .inl rfl
  | list items =>
    by_cases constant : items.all isLiteral = true
    · refine .inr ⟨items.filterMap literal?, ?_, ?_⟩
      · exact congrArg Expr.list (eq_map_literal constant)
      · simp only [collapsed, constant, if_true]
    · exact .inl (by simp only [collapsed, constant]; rfl)

def mapOperands (f : Expr → Expr) : Expr → Expr
  | .literal value => .literal value
  | .list items => .list (items.map f)
  | .var path fallback => .var path (fallback.map f)
  | .call operator args => .call operator (args.map f)

theorem operands?_mapOperands (f : Expr → Expr) (e : Expr) :
    (e.mapOperands f).operands? = e.operands?.map (List.map f) := by
  cases e with
  | literal value => rfl
  | list items => rfl
  | var path fallback => cases fallback <;> rfl
  | call operator args => rfl

theorem operands_mapOperands (f : Expr → Expr) (e : Expr) :
    (e.mapOperands f).operands = e.operands.map f := by
  simp only [operands, operands?_mapOperands]
  cases e.operands? <;> rfl

theorem mapOperands_eq_self {f : Expr → Expr} {e : Expr}
    (same : ∀ operand ∈ e.operands, f operand = operand) : e.mapOperands f = e := by
  cases e with
  | literal value => rfl
  | list items =>
    have maps : items.map f = items.map id := List.map_congr_left same
    simp [mapOperands, maps]
  | var path fallback =>
    cases fallback with
    | none => rfl
    | some fallback => simp only [mapOperands, Option.map_some, same fallback List.mem_cons_self]
  | call operator args =>
    have maps : args.map f = args.map id := List.map_congr_left same
    simp [mapOperands, maps]

/-! ## The whole expression -/

mutual

/-- The expression with every list collapsed whose items have all become
constants. -/
def folded : Expr → Expr
  | .literal value => .literal value
  | .list items => collapsed (.list (foldedAll items))
  | .var path none => .var path none
  | .var path (some fallback) => .var path (some (folded fallback))
  | .call operator args => .call operator (foldedAll args)

def foldedAll : List Expr → List Expr
  | [] => []
  | item :: rest => folded item :: foldedAll rest

end

theorem foldedAll_eq_map (items : List Expr) : foldedAll items = items.map folded := by
  induction items with
  | nil => rfl
  | cons item rest ih => simp only [foldedAll, List.map_cons, ih]

theorem folded_eq (e : Expr) : e.folded = (e.mapOperands folded).collapsed := by
  cases e with
  | literal value => rfl
  | list items => simp only [folded, mapOperands, foldedAll_eq_map]
  | var path fallback => cases fallback <;> rfl
  | call operator args => simp only [folded, mapOperands, collapsed, foldedAll_eq_map]

theorem folded_eq_self {e : Expr}
    (open_ : ∀ items, .list items ∈ e.nodes → items.all isLiteral = false) : e.folded = e := by
  induction e using operandInduction with
  | step e ih =>
    have inner : e.mapOperands folded = e := by
      apply mapOperands_eq_self
      intro operand member
      -- Every list inside an operand is a list inside the expression.
      exact ih operand member fun items inside => open_ items (nodes_subset member inside)
    rw [folded_eq, inner]
    cases e with
    | literal value => rfl
    | list items =>
      have notConstant := open_ items (self_mem_nodes _)
      simp only [collapsed, notConstant, Bool.false_eq_true, if_false]
    | var path fallback => rfl
    | call operator args => rfl

theorem open_of_folded_eq_self {e : Expr} (same : e.folded = e) {items : List Expr}
    (inside : .list items ∈ e.nodes) : items.all isLiteral = false := by
  induction e using operandInduction with
  | step e ih =>
    -- Folding keeps the node itself only if it keeps every operand.
    obtain ⟨operandsSame, itself⟩ : (∀ operand ∈ e.operands, operand.folded = operand) ∧
        (e = .list items → items.all isLiteral = false) := by
      cases e with
      | literal value => exact ⟨nofun, nofun⟩
      | list own =>
        rw [folded, foldedAll_eq_map] at same
        by_cases constant : (own.map folded).all isLiteral = true
        · simp [collapsed, constant] at same
        · simp only [collapsed, if_neg constant, Expr.list.injEq] at same
          refine ⟨fun operand member => ?_, ?_⟩
          · exact List.map_inj_left.mp (same.trans (List.map_id own).symm) operand member
          · rintro ⟨⟩
            rwa [same, Bool.not_eq_true] at constant
      | var path fallback =>
        refine ⟨fun operand member => ?_, nofun⟩
        cases fallback with
        | none => cases member
        | some fallback =>
          obtain rfl := List.mem_singleton.mp member
          simpa [folded] using same
      | call operator args =>
        rw [folded, foldedAll_eq_map, Expr.call.injEq] at same
        refine ⟨fun operand member => ?_, nofun⟩
        exact List.map_inj_left.mp (same.2.trans (List.map_id args).symm) operand member
    rw [nodes_eq, List.mem_cons, List.mem_flatMap] at inside
    rcases inside with here | ⟨operand, member, below⟩
    · exact itself here.symm
    · exact ih operand member (operandsSame operand member) below

/-! ## Evaluation -/

section
variable (ctx : Context) (scope : Scope)

theorem evaluateAll_literals (values : List Value) :
    evaluateAll ctx scope (values.map .literal) = pure values := by
  induction values with
  | nil => rfl
  | cons value rest ih => simp [evaluateAll, evaluate, ih]

theorem evaluate_collapsed (e : Expr) :
    e.collapsed.evaluate ctx scope = e.evaluate ctx scope := by
  rcases collapsed_cases e with same | ⟨values, rfl, constant⟩
  · rw [same]
  · -- Constants call no operator, so the walk through the list leaves no call.
    rw [constant]
    simp [evaluate, evaluateAll_literals]

theorem layer_mapOperands {m : Type → Type} [Monad m] [MonadLiftT Walk m] (f : Expr → Expr)
    (inner : Expr → m Value) (e : Expr) :
    layer ctx scope inner (e.mapOperands f) =
      layer ctx scope (fun operand => inner (f operand)) e := by
  cases e with
  | literal value => rfl
  | list items => simp only [mapOperands, layer, List.map_map, Function.comp_def]
  | var path fallback => cases fallback <;> rfl
  | call operator args => simp only [mapOperands, layer, List.map_map, Function.comp_def]

/-- The folded expression comes to the same value or failure, by the same calls
of registered operators. -/
theorem evaluate_folded (e : Expr) : e.folded.evaluate ctx scope = e.evaluate ctx scope := by
  induction e using operandInduction with
  | step e ih =>
    calc e.folded.evaluate ctx scope
        = (e.mapOperands folded).evaluate ctx scope := by rw [folded_eq, evaluate_collapsed]
      _ = layer ctx scope (evaluate ctx scope) (e.mapOperands folded) :=
        evaluate_eq_layer ctx scope _
      _ = layer ctx scope (fun operand => operand.folded.evaluate ctx scope) e :=
        layer_mapOperands ctx scope folded _ e
      _ = layer ctx scope (evaluate ctx scope) e := layer_congr ctx scope ih
      _ = e.evaluate ctx scope := (evaluate_eq_layer ctx scope e).symm

end

/-! ## Reads -/

def ownReads : Expr → List String
  | .var path _ => [path]
  | _ => []

theorem readsOfAll_eq_flatMap (items : List Expr) : readsOfAll items = items.flatMap reads := by
  induction items with
  | nil => rfl
  | cons item rest ih => simp only [readsOfAll, List.flatMap_cons, ih]

theorem reads_eq (e : Expr) : e.reads = e.ownReads ++ e.operands.flatMap reads := by
  cases e with
  | literal value => rfl
  | list items => simp [reads, ownReads, operands, operands?, readsOfAll_eq_flatMap]
  | var path fallback => cases fallback <;> simp [reads, ownReads, operands, operands?]
  | call operator args => simp [reads, ownReads, operands, operands?, readsOfAll_eq_flatMap]

theorem reads_collapsed (e : Expr) : e.collapsed.reads = e.reads := by
  rcases collapsed_cases e with same | ⟨values, rfl, constant⟩
  · rw [same]
  · rw [constant]
    simp [reads, readsOfAll_eq_flatMap, List.flatMap_map]

theorem reads_folded (e : Expr) : e.folded.reads = e.reads := by
  induction e using operandInduction with
  | step e ih =>
    have own : (e.mapOperands folded).ownReads = e.ownReads := by cases e <;> rfl
    calc e.folded.reads
        = (e.mapOperands folded).reads := by rw [folded_eq, reads_collapsed]
      _ = e.ownReads ++ e.operands.flatMap fun operand => operand.folded.reads := by
        rw [reads_eq, own, operands_mapOperands, List.flatMap_map]
      _ = e.ownReads ++ e.operands.flatMap reads := by
        rw [List.flatMap_def, List.map_congr_left ih, ← List.flatMap_def]
      _ = e.reads := (reads_eq e).symm

theorem vars_folded (e : Expr) : e.folded.vars = e.vars := by
  simp only [vars, reads_folded]

/-! ## Depth -/

theorem depthOfAll_map_le {f : Expr → Expr} {items : List Expr}
    (shallower : ∀ item ∈ items, (f item).depth ≤ item.depth) :
    depthOfAll (items.map f) ≤ depthOfAll items := by
  induction items with
  | nil => exact Nat.le_refl _
  | cons item rest ih =>
    have first := shallower item List.mem_cons_self
    have others := ih fun later member => shallower later (List.mem_cons_of_mem _ member)
    simp only [List.map_cons, depthOfAll]
    omega

theorem depth_mapOperands_le {f : Expr → Expr} {e : Expr}
    (shallower : ∀ operand ∈ e.operands, (f operand).depth ≤ operand.depth) :
    (e.mapOperands f).depth ≤ e.depth := by
  cases has : e.operands? with
  | none => simp [depth_eq_zero, operands?_mapOperands, has]
  | some items =>
    have bound : depthOfAll (items.map f) ≤ depthOfAll items :=
      depthOfAll_map_le fun item member => shallower item (by simpa [operands, has] using member)
    rw [depth_eq_succ has, depth_eq_succ (by rw [operands?_mapOperands, has]; rfl)]
    omega

theorem depth_collapsed_le (e : Expr) : e.collapsed.depth ≤ e.depth := by
  rcases collapsed_cases e with same | ⟨values, rfl, constant⟩
  · exact Nat.le_of_eq (congrArg depth same)
  · rw [constant]
    exact Nat.zero_le _

theorem depth_folded_le (e : Expr) : e.folded.depth ≤ e.depth := by
  induction e using operandInduction with
  | step e ih =>
    rw [folded_eq]
    exact Nat.le_trans (depth_collapsed_le _) (depth_mapOperands_le ih)

end Eligibility.Expr
