/-!
The six comparisons of rule expressions, as predicates on how two operands are
ordered.
-/

set_option autoImplicit false

namespace Eligibility

inductive Comparison where
  | eq
  | ne
  | gt
  | ge
  | lt
  | le
  deriving DecidableEq, Repr

namespace Comparison

/-- The comparison that an operator name stands for; `===` and `!==` count as
their loose forms. -/
def ofSymbol? (symbol : String) : Option Comparison :=
  match symbol with
  | "<" => some .lt
  | "<=" => some .le
  | ">" => some .gt
  | ">=" => some .ge
  | "==" | "===" => some .eq
  | "!=" | "!==" => some .ne
  | _ => none

def symbol : Comparison → String
  | .eq => "=="
  | .ne => "!="
  | .gt => ">"
  | .ge => ">="
  | .lt => "<"
  | .le => "<="

def flip : Comparison → Comparison
  | .gt => .lt
  | .ge => .le
  | .lt => .gt
  | .le => .ge
  | other => other

def holds : Comparison → Ordering → Bool
  | .eq, order => order == .eq
  | .ne, order => order != .eq
  | .gt, order => order == .gt
  | .ge, order => order != .lt
  | .lt, order => order == .lt
  | .le, order => order != .gt

def all : List Comparison := [.eq, .ne, .lt, .le, .gt, .ge]

theorem ofSymbol?_symbol (comparison : Comparison) :
    ofSymbol? comparison.symbol = some comparison := by
  cases comparison <;> rfl

theorem holds_flip (comparison : Comparison) (order : Ordering) :
    comparison.flip.holds order.swap = comparison.holds order := by
  cases comparison <;> cases order <;> rfl

end Comparison

end Eligibility
