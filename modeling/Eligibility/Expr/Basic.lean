import Eligibility.Value.Basic
import Eligibility.Distinct

/-!
Rule expressions: constants, lists, reads of the context, and calls of
operators. `depth` is how deep operands nest, `measuredDepth` finds the same
number with a work list in place of nested calls, and `vars` lists the context
paths that an expression reads.
-/

set_option autoImplicit false

namespace Eligibility

inductive Expr where
  | literal (value : Value)
  | list (items : List Expr)
  /-- A read of the context, with what to take when there is nothing. -/
  | var (path : String) (fallback : Option Expr)
  | call (operator : String) (args : List Expr)
  deriving Inhabited

namespace Expr

def isLiteral : Expr → Bool
  | .literal _ => true
  | _ => false

mutual

/-- Levels of operands: a call, a list and a read with a fallback count one. -/
def depth : Expr → Nat
  | .literal _ => 0
  | .list items => 1 + depthOfAll items
  | .var _ none => 0
  | .var _ (some fallback) => 1 + depth fallback
  | .call _ args => 1 + depthOfAll args

def depthOfAll : List Expr → Nat
  | [] => 0
  | item :: rest => max (depth item) (depthOfAll rest)

end

mutual

def size : Expr → Nat
  | .literal _ => 1
  | .list items => 1 + sizeOfAll items
  | .var _ none => 1
  | .var _ (some fallback) => 1 + size fallback
  | .call _ args => 1 + sizeOfAll args

def sizeOfAll : List Expr → Nat
  | [] => 0
  | item :: rest => size item + sizeOfAll rest

end

/-- The operands that a node puts one level below itself, if it is a node with
operands at all. -/
def operands? : Expr → Option (List Expr)
  | .literal _ => none
  | .list items => some items
  | .var _ none => none
  | .var _ (some fallback) => some [fallback]
  | .call _ args => some args

def pending : List (Expr × Nat) → Nat
  | [] => 0
  | (e, _) :: rest => e.size + pending rest

theorem pending_append (first second : List (Expr × Nat)) :
    pending (first ++ second) = pending first + pending second := by
  induction first with
  | nil => simp [pending]
  | cons entry rest ih => simp [pending, ih]; omega

theorem pending_reverse (work : List (Expr × Nat)) : pending work.reverse = pending work := by
  induction work with
  | nil => rfl
  | cons entry rest ih =>
    rw [List.reverse_cons, pending_append, ih]
    simp [pending]; omega

theorem pending_map (level : Nat) (items : List Expr) :
    pending (items.map fun item => (item, level)) = sizeOfAll items := by
  induction items with
  | nil => rfl
  | cons item rest ih => simp [pending, sizeOfAll, ih]

theorem size_pos (e : Expr) : 0 < e.size := by
  cases e with
  | literal value => exact Nat.one_pos
  | list items => simp only [size]; omega
  | var path fallback => cases fallback <;> simp only [size] <;> omega
  | call operator args => simp only [size]; omega

theorem sizeOfAll_operands {e : Expr} {operands : List Expr} (has : e.operands? = some operands) :
    e.size = 1 + sizeOfAll operands := by
  cases e with
  | var path fallback =>
    cases fallback with
    | none => simp [operands?] at has
    | some fallback => simp [operands?] at has; subst has; simp [size, sizeOfAll]
  | literal value => simp [operands?] at has
  | list items => simp [operands?] at has; subst has; simp [size]
  | call operator args => simp [operands?] at has; subst has; simp [size]

/-- Takes expressions off the work list, each with the level it stands at, and
keeps the deepest level at which operands were met. The last operand of a node
is the next to be taken. -/
def measureAll : List (Expr × Nat) → Nat → Nat
  | [], deepest => deepest
  | (e, level) :: rest, deepest =>
    match has : e.operands? with
    | none => measureAll rest deepest
    | some operands =>
      measureAll ((operands.map fun operand => (operand, level + 1)).reverse ++ rest)
        (max deepest (level + 1))
termination_by work => pending work
decreasing_by
  · simp [pending]; exact size_pos e
  · simp only [pending, pending_append, pending_reverse, pending_map, sizeOfAll_operands has]
    omega

def measuredDepth (e : Expr) : Nat := measureAll [(e, 0)] 0

mutual

def reads : Expr → List String
  | .literal _ => []
  | .list items => readsOfAll items
  | .var path none => [path]
  | .var path (some fallback) => path :: reads fallback
  | .call _ args => readsOfAll args

def readsOfAll : List Expr → List String
  | [] => []
  | item :: rest => reads item ++ readsOfAll rest

end

/-- Every path that is read, once, in the order of first reads. The empty path
does not count. -/
def vars (e : Expr) : List String := distinct (e.reads.filter (· != ""))

mutual

/-- Equality of trees, with constants compared by `Value.same`. -/
def same : Expr → Expr → Bool
  | .literal a, .literal b => Value.same a b
  | .list as, .list bs => sameAll as bs
  | .var p none, .var q none => p == q
  | .var p (some a), .var q (some b) => p == q && same a b
  | .call f as, .call g bs => f == g && sameAll as bs
  | _, _ => false

def sameAll : List Expr → List Expr → Bool
  | [], [] => true
  | a :: as, b :: bs => same a b && sameAll as bs
  | _, _ => false

end

end Expr

end Eligibility
