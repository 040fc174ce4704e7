import Eligibility.Expr.Basic

/-!
The structure of expressions: their operands, an induction principle that goes
through lists of operands, the nodes inside them, and the depth that the work
list finds.
-/

set_option autoImplicit false

namespace Eligibility.Expr

/-! ## Operands -/

def operands (e : Expr) : List Expr := e.operands?.getD []

theorem size_le_sizeOfAll {operand : Expr} {items : List Expr} (member : operand ∈ items) :
    operand.size ≤ sizeOfAll items := by
  induction items with
  | nil => cases member
  | cons item rest ih =>
    rcases List.mem_cons.mp member with rfl | later
    · simp only [sizeOfAll]; omega
    · have := ih later
      simp only [sizeOfAll]; omega

theorem size_lt_of_mem_operands {e operand : Expr} (member : operand ∈ e.operands) :
    operand.size < e.size := by
  unfold operands at member
  cases has : e.operands? with
  | none => simp [has] at member
  | some items =>
    rw [has, Option.getD_some] at member
    have bound := size_le_sizeOfAll member
    rw [sizeOfAll_operands has]
    omega

@[elab_as_elim]
theorem operandInduction {motive : Expr → Prop}
    (step : ∀ e, (∀ operand ∈ e.operands, motive operand) → motive e) (e : Expr) : motive e :=
  step e fun operand _member => operandInduction step operand
termination_by e.size
decreasing_by exact size_lt_of_mem_operands _member

/-! ## Nodes -/

mutual

def nodes : Expr → List Expr
  | .literal value => [.literal value]
  | .list items => .list items :: nodesOfAll items
  | .var path none => [.var path none]
  | .var path (some fallback) => .var path (some fallback) :: nodes fallback
  | .call operator args => .call operator args :: nodesOfAll args

def nodesOfAll : List Expr → List Expr
  | [] => []
  | item :: rest => nodes item ++ nodesOfAll rest

end

theorem self_mem_nodes (e : Expr) : e ∈ e.nodes := by
  cases e with
  | literal value => simp [nodes]
  | list items => simp [nodes]
  | var path fallback => cases fallback <;> simp [nodes]
  | call operator args => simp [nodes]

theorem nodes_subset_nodesOfAll {operand : Expr} {items : List Expr} (member : operand ∈ items) :
    operand.nodes ⊆ nodesOfAll items := by
  induction items with
  | nil => cases member
  | cons item rest ih =>
    intro node inside
    rcases List.mem_cons.mp member with rfl | later
    · exact List.mem_append_left _ inside
    · exact List.mem_append_right _ (ih later inside)

theorem nodes_subset {e operand : Expr} (member : operand ∈ e.operands) :
    operand.nodes ⊆ e.nodes := by
  cases e with
  | literal value => cases member
  | list items => exact List.subset_cons_of_subset _ (nodes_subset_nodesOfAll member)
  | var path fallback =>
    cases fallback with
    | none => cases member
    | some fallback => rw [List.mem_singleton.mp member]; exact List.subset_cons_self _ _
  | call operator args => exact List.subset_cons_of_subset _ (nodes_subset_nodesOfAll member)

theorem nodesOfAll_eq_flatMap (items : List Expr) : nodesOfAll items = items.flatMap nodes := by
  induction items with
  | nil => rfl
  | cons item rest ih => simp only [nodesOfAll, List.flatMap_cons, ih]

theorem nodes_eq (e : Expr) : e.nodes = e :: e.operands.flatMap nodes := by
  cases e with
  | literal value => rfl
  | list items => simp [nodes, operands, operands?, nodesOfAll_eq_flatMap]
  | var path fallback => cases fallback <;> simp [nodes, operands, operands?]
  | call operator args => simp [nodes, operands, operands?, nodesOfAll_eq_flatMap]

/-! ## Depth -/

theorem depth_eq_zero {e : Expr} (leaf : e.operands? = none) : e.depth = 0 := by
  cases e with
  | literal value => rfl
  | list items => cases leaf
  | var path fallback =>
    cases fallback with
    | none => rfl
    | some fallback => cases leaf
  | call operator args => cases leaf

theorem depth_eq_succ {e : Expr} {items : List Expr} (has : e.operands? = some items) :
    e.depth = 1 + depthOfAll items := by
  cases e with
  | literal value => cases has
  | list items => cases has; rfl
  | var path fallback =>
    cases fallback with
    | none => cases has
    | some fallback => cases has; simp [depth, depthOfAll]
  | call operator args => cases has; rfl

theorem depth_le_depthOfAll {operand : Expr} {items : List Expr} (member : operand ∈ items) :
    operand.depth ≤ depthOfAll items := by
  induction items with
  | nil => cases member
  | cons item rest ih =>
    rcases List.mem_cons.mp member with rfl | later
    · exact Nat.le_max_left _ _
    · exact Nat.le_trans (ih later) (Nat.le_max_right _ _)

theorem depth_lt_of_mem_operands {e operand : Expr} (member : operand ∈ e.operands) :
    operand.depth < e.depth := by
  unfold operands at member
  cases has : e.operands? with
  | none => simp [has] at member
  | some items =>
    rw [has, Option.getD_some] at member
    have bound := depth_le_depthOfAll member
    rw [depth_eq_succ has]
    omega

/-! ## The work list -/

def reach : List (Expr × Nat) → Nat
  | [] => 0
  | (e, level) :: rest => max (level + e.depth) (reach rest)

theorem reach_append (first second : List (Expr × Nat)) :
    reach (first ++ second) = max (reach first) (reach second) := by
  induction first with
  | nil => simp [reach]
  | cons entry rest ih => simp [reach, ih, Nat.max_assoc]

theorem reach_reverse (work : List (Expr × Nat)) : reach work.reverse = reach work := by
  induction work with
  | nil => rfl
  | cons entry rest ih =>
    rw [List.reverse_cons, reach_append, ih]
    simp only [reach]
    omega

theorem max_reach_map (level : Nat) (items : List Expr) :
    max level (reach (items.map fun item => (item, level))) = level + depthOfAll items := by
  induction items with
  | nil => simp [reach, depthOfAll]
  | cons item rest ih =>
    simp only [List.map_cons, reach, depthOfAll]
    omega

/-- The invariant of the work list is that nothing on it stands below the
deepest level so far: the parent of an entry was met before the entry. -/
theorem measureAll_eq_max (work : List (Expr × Nat)) (deepest : Nat)
    (met : ∀ entry ∈ work, entry.2 ≤ deepest) :
    measureAll work deepest = max deepest (reach work) := by
  fun_induction measureAll work deepest with
  | case1 deepest => simp [reach]
  | case2 e level rest deepest leaf ih =>
    -- A leaf reaches only the level that it stands at, which has been met.
    have here : level ≤ deepest := met (e, level) List.mem_cons_self
    rw [ih fun entry member => met entry (List.mem_cons_of_mem _ member)]
    simp only [reach, depth_eq_zero leaf]
    omega
  | case3 e level rest deepest items has ih =>
    -- The operands stand on the level that is met now, all others above it.
    have below : ∀ entry ∈ (items.map fun item => (item, level + 1)).reverse ++ rest,
        entry.2 ≤ max deepest (level + 1) := by
      intro entry member
      rcases List.mem_append.mp member with pushed | waiting
      · obtain ⟨item, _, rfl⟩ := List.mem_map.mp (List.mem_reverse.mp pushed)
        exact Nat.le_max_right _ _
      · exact Nat.le_trans (met entry (List.mem_cons_of_mem _ waiting)) (Nat.le_max_left _ _)
    have pushed := max_reach_map (level + 1) items
    rw [ih below, reach_append, reach_reverse]
    simp only [reach, depth_eq_succ has]
    omega

theorem measuredDepth_eq_depth (e : Expr) : e.measuredDepth = e.depth := by
  rw [measuredDepth, measureAll_eq_max _ _ (by simp)]
  simp [reach]

end Eligibility.Expr
