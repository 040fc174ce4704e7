import Eligibility.Program.Calculation
import Eligibility.Proofs.Expr.Structure

/-!
The threshold that is shown beside an answer. It is set by the first comparison of the
field with a constant, from left to right, among the nodes that stand inside calls
only; what a list or the fallback of a read holds is not looked at.
-/

set_option autoImplicit false

namespace Eligibility

theorem findSome?_flatMap {α β γ : Type} (f : β → Option γ) (parts : α → List β)
    (items : List α) :
    (items.flatMap parts).findSome? f = items.findSome? fun item => (parts item).findSome? f := by
  induction items with
  | nil => rfl
  | cons item rest ih =>
    rw [List.flatMap_cons, List.findSome?_append, ih, List.findSome?_cons]
    cases (parts item).findSome? f <;> rfl

theorem findSome?_congr {α β : Type} {f g : α → Option β} {items : List α}
    (same : ∀ item ∈ items, f item = g item) : items.findSome? f = items.findSome? g := by
  induction items with
  | nil => rfl
  | cons item rest ih =>
    obtain ⟨here, later⟩ := List.forall_mem_cons.mp same
    rw [List.findSome?_cons, List.findSome?_cons, here, ih later]

/-! ## Outer nodes -/

namespace Expr

mutual

/-- The nodes that stand inside calls only, from left to right: lists and reads are
among them, what they hold is not. -/
def outerNodes : Expr → List Expr
  | .call operator args => .call operator args :: outerNodesOfAll args
  | .literal value => [.literal value]
  | .list items => [.list items]
  | .var path fallback => [.var path fallback]

def outerNodesOfAll : List Expr → List Expr
  | [] => []
  | item :: rest => outerNodes item ++ outerNodesOfAll rest

end

def held : Expr → List Expr
  | .list items => items
  | .var _ (some fallback) => [fallback]
  | _ => []

theorem outerNodesOfAll_eq_flatMap (items : List Expr) :
    outerNodesOfAll items = items.flatMap outerNodes := by
  induction items with
  | nil => rfl
  | cons item rest ih => simp only [outerNodesOfAll, List.flatMap_cons, ih]

theorem mem_outerNodes_call {operator : String} {args : List Expr} {arg node : Expr}
    (member : arg ∈ args) (outer : node ∈ arg.outerNodes) :
    node ∈ (Expr.call operator args).outerNodes := by
  rw [outerNodes, outerNodesOfAll_eq_flatMap]
  exact List.mem_cons_of_mem _ (List.mem_flatMap.mpr ⟨arg, member, outer⟩)

end Expr

namespace Threshold

/-! ## One node -/

inductive Sets (path : String) : Expr → Threshold → Prop
  | oneOf (fallback : Option Expr) (items : List Value) :
      Sets path (.call "in" [.var path fallback, .literal (.list items)]) (.oneOf items)
  | limit {symbol : String} {comparison : Comparison} (fallback : Option Expr) (bound : Value) :
      Comparison.ofSymbol? symbol = some comparison →
      Sets path (.call symbol [.var path fallback, .literal bound]) (.limit comparison bound)
  | flipped {symbol : String} {comparison : Comparison} (fallback : Option Expr)
      (bound : Value) :
      Comparison.ofSymbol? symbol = some comparison →
      Sets path (.call symbol [.literal bound, .var path fallback]) (.limit comparison.flip bound)
  /-- Of a range the upper bound is taken. -/
  | range {symbol : String} {comparison : Comparison} (fallback : Option Expr)
      (low high : Value) :
      symbol = "<" ∨ symbol = "<=" → Comparison.ofSymbol? symbol = some comparison →
      Sets path (.call symbol [.literal low, .var path fallback, .literal high])
        (.limit comparison high)

def ofNode? (path : String) : Expr → Option Threshold
  | .call operator args => ofCall? path operator args
  | _ => none

section
variable {path : String} {node : Expr} {threshold : Threshold}

theorem isRead_iff {e : Expr} : isRead path e = true ↔ ∃ fallback, e = .var path fallback := by
  cases e <;> simp [isRead]

theorem ofNode?_of_sets (sets : Sets path node threshold) :
    ofNode? path node = some threshold := by
  cases sets with
  | oneOf fallback items => simp [ofNode?, ofCall?, isRead]
  | flipped fallback bound known => simp [ofNode?, ofCall?, isRead, known]
  | range fallback low high symbols known =>
    rcases symbols with rfl | rfl <;> simp [ofNode?, ofCall?, isRead, known]
  | @limit symbol comparison fallback bound known =>
    -- No comparison is called `in`, which takes a list for the values that it accepts.
    have call : symbol ≠ "in" := by
      rintro rfl
      cases known
    simp [ofNode?, ofCall?, isRead, known, call]

theorem sets_of_ofCall? {operator : String} {args : List Expr} :
    ofCall? path operator args = some threshold → Sets path (.call operator args) threshold := by
  fun_cases ofCall? path operator args with
  | case1 left read items =>
    rintro ⟨⟩
    obtain ⟨fallback, rfl⟩ := isRead_iff.mp read
    exact .oneOf fallback items
  | case2 symbol left bound read _ =>
    intro found
    obtain ⟨fallback, rfl⟩ := isRead_iff.mp read
    obtain ⟨comparison, known, rfl⟩ := Option.map_eq_some_iff.mp found
    exact .limit fallback bound known
  | case4 symbol bound right _ read =>
    intro found
    obtain ⟨fallback, rfl⟩ := isRead_iff.mp read
    obtain ⟨comparison, known, rfl⟩ := Option.map_eq_some_iff.mp found
    exact .flipped fallback bound known
  | case6 symbol low middle high range =>
    intro found
    simp only [Bool.and_eq_true, Bool.or_eq_true, beq_iff_eq] at range
    obtain ⟨fallback, rfl⟩ := isRead_iff.mp range.1
    obtain ⟨comparison, known, rfl⟩ := Option.map_eq_some_iff.mp found
    exact .range fallback low high range.2.symm known
  -- The other calls are of none of the forms.
  | _ => exact nofun

theorem ofNode?_eq_some_iff : ofNode? path node = some threshold ↔ Sets path node threshold := by
  refine ⟨fun found => ?_, ofNode?_of_sets⟩
  cases node with
  | call operator args => exact sets_of_ofCall? found
  | literal value => cases found
  | list items => cases found
  | var other fallback => cases found

theorem ofNode?_eq_none_iff : ofNode? path node = none ↔ ∀ t, ¬ Sets path node t := by
  simp only [Option.eq_none_iff_forall_ne_some, ne_eq, ofNode?_eq_some_iff]

end

/-! ## All nodes -/

def IsFirst (path : String) (nodes : List Expr) (threshold : Threshold) : Prop :=
  ∃ before node after, nodes = before ++ node :: after ∧ Sets path node threshold ∧
    ∀ earlier ∈ before, ∀ t, ¬ Sets path earlier t

section
variable {path : String} {nodes : List Expr}

theorem findSome?_eq_some_iff_isFirst {threshold : Threshold} :
    nodes.findSome? (ofNode? path) = some threshold ↔ IsFirst path nodes threshold := by
  simp only [List.findSome?_eq_some_iff, ofNode?_eq_some_iff, ofNode?_eq_none_iff, IsFirst]

theorem findSome?_eq_none_iff_sets :
    nodes.findSome? (ofNode? path) = none ↔ ∀ node ∈ nodes, ∀ t, ¬ Sets path node t := by
  simp only [List.findSome?_eq_none_iff, ofNode?_eq_none_iff]

end

theorem findAny?_eq (path : String) (items : List Expr) :
    findAny? path items = items.findSome? (find? path) := by
  induction items with
  | nil => rfl
  | cons item rest ih =>
    rw [findAny?, ih, List.findSome?_cons]
    cases find? path item <;> rfl

theorem find?_eq_findSome? (path : String) (e : Expr) :
    find? path e = e.outerNodes.findSome? (ofNode? path) := by
  induction e using Expr.operandInduction with
  | step e ih =>
    cases e with
    | literal value => rfl
    | list items => rfl
    | var other fallback => rfl
    | call operator args =>
      have each : ∀ arg ∈ args, find? path arg = arg.outerNodes.findSome? (ofNode? path) := ih
      rw [find?, findAny?_eq, findSome?_congr each, ← findSome?_flatMap,
        ← Expr.outerNodesOfAll_eq_flatMap, Expr.outerNodes, List.findSome?_cons, ofNode?]
      cases ofCall? path operator args <;> rfl

/-- No list and no fallback holds a node that sets a threshold. -/
def NoneHeld (path : String) (e : Expr) : Prop :=
  ∀ holder ∈ e.outerNodes, ∀ inner ∈ holder.held, ∀ node ∈ inner.nodes, ∀ t, ¬ Sets path node t

instance (path : String) (e : Expr) : Decidable (NoneHeld path e) :=
  decidable_of_iff (∀ holder ∈ e.outerNodes, ∀ inner ∈ holder.held, ∀ node ∈ inner.nodes,
    (ofNode? path node).isNone = true) <| by
    simp only [Option.isNone_iff_eq_none, ofNode?_eq_none_iff]
    rfl

theorem NoneHeld.findSome?_held {path : String} {e holder : Expr} (noneHeld : NoneHeld path e)
    (outer : holder ∈ e.outerNodes) :
    (holder.held.flatMap Expr.nodes).findSome? (ofNode? path) = none := by
  refine findSome?_eq_none_iff_sets.mpr fun node member => ?_
  obtain ⟨inner, within, inside⟩ := List.mem_flatMap.mp member
  exact noneHeld holder outer inner within node inside

theorem NoneHeld.findSome?_nodes {path : String} {e : Expr} (noneHeld : NoneHeld path e) :
    e.nodes.findSome? (ofNode? path) = e.outerNodes.findSome? (ofNode? path) := by
  induction e using Expr.operandInduction with
  | step e ih =>
    rw [Expr.nodes_eq, List.findSome?_cons]
    cases e with
    | literal value => rfl
    | list items =>
      have operands : (Expr.list items).operands = (Expr.list items).held := rfl
      rw [operands, noneHeld.findSome?_held List.mem_cons_self]
      rfl
    | var other fallback =>
      have operands : (Expr.var other fallback).operands = (Expr.var other fallback).held := by
        cases fallback <;> rfl
      rw [operands, noneHeld.findSome?_held List.mem_cons_self]
      rfl
    | call operator args =>
      have each : ∀ arg ∈ args,
          arg.nodes.findSome? (ofNode? path) = arg.outerNodes.findSome? (ofNode? path) := by
        intro arg member
        refine ih arg member fun holder outer => noneHeld holder ?_
        exact Expr.mem_outerNodes_call member outer
      have operands : (Expr.call operator args).operands = args := rfl
      rw [operands, findSome?_flatMap, findSome?_congr each, ← findSome?_flatMap,
        ← Expr.outerNodesOfAll_eq_flatMap, Expr.outerNodes, List.findSome?_cons]

/-- What is found is the threshold of the first outer node that sets one, and nothing
is found exactly if no outer node does. All nodes count alike where no list and no
fallback holds a node that sets a threshold. -/
theorem finds_first_outer (path : String) (e : Expr) :
    (∀ t, find? path e = some t ↔ IsFirst path e.outerNodes t) ∧
    (find? path e = none ↔ ∀ node ∈ e.outerNodes, ∀ t, ¬ Sets path node t) ∧
    (NoneHeld path e →
      (∀ t, find? path e = some t ↔ IsFirst path e.nodes t) ∧
      (find? path e = none ↔ ∀ node ∈ e.nodes, ∀ t, ¬ Sets path node t)) := by
  rw [find?_eq_findSome?]
  refine ⟨fun _ => findSome?_eq_some_iff_isFirst, findSome?_eq_none_iff_sets, fun noneHeld => ?_⟩
  rw [← noneHeld.findSome?_nodes]
  exact ⟨fun _ => findSome?_eq_some_iff_isFirst, findSome?_eq_none_iff_sets⟩

/-- The list and the fallback hold no comparison of the income, so the first one of all
nodes is found: the limit stands on the left of it. -/
theorem finds_first_outer_behind_list :
    let e : Expr := .call "and"
      [.call "all_true" [.list [.var "isPregnant" none]],
        .call ">=" [.literal (.int 2500), .var "householdIncome" (some (.literal (.int 0)))]]
    NoneHeld "householdIncome" e ∧
    find? "householdIncome" e = some (.limit .le (.int 2500)) ∧
    IsFirst "householdIncome" e.nodes (.limit .le (.int 2500)) := by
  intro e
  have noneHeld : NoneHeld "householdIncome" e := by decide
  have found : find? "householdIncome" e = some (.limit .le (.int 2500)) := by rfl
  exact ⟨noneHeld, found, (((finds_first_outer "householdIncome" e).2.2 noneHeld).1 _).mp found⟩

/-- A limit in a list is passed over. -/
theorem find?_overlooks_list :
    let e : Expr := .call "all_true"
      [.list [.call "<=" [.var "householdIncome" none, .literal (.int 2500)],
        .var "isPregnant" none]]
    find? "householdIncome" e = none ∧
    IsFirst "householdIncome" e.nodes (.limit .le (.int 2500)) :=
  ⟨rfl, findSome?_eq_some_iff_isFirst.mp rfl⟩

end Threshold

end Eligibility
