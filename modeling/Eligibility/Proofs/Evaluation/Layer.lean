import Eligibility.Evaluation.Expr
import Eligibility.Proofs.Expr.Structure

/-!
One layer of evaluation: the value of a node when the evaluation of its operands
is given, in any monad that walks lift to. Evaluation is a fixed point of its
layer, and a layer asks for nothing but the operands of the node.
-/

set_option autoImplicit false

namespace Eligibility.Expr

/-! ## Operands in order -/

section
variable {m : Type → Type} [Monad m]

def inTurn : List (m Value) → m (List Value)
  | [] => pure []
  | first :: rest => do
    let value ← first
    let values ← inTurn rest
    pure (value :: values)

/-- The first value that decides, or else the last. -/
def untilDecided (decides : Value → Bool) (last : Value) : List (m Value) → m Value
  | [] => pure last
  | first :: rest => do
    let value ← first
    if decides value then pure value else untilDecided decides value rest

def firstBranch : List (m Value) → m Value
  | [] => pure .null
  | [otherwise] => otherwise
  | condition :: branch :: rest => do
    let value ← condition
    if value.isTruthy then branch else firstBranch rest

end

section
variable {m n : Type → Type} [Monad m] [Monad n] [MonadLiftT m n] [LawfulMonadLiftT m n]

theorem inTurn_lift (walks : List (m Value)) :
    (monadLift (inTurn walks) : n (List Value)) = inTurn (walks.map monadLift) := by
  induction walks with
  | nil => exact monadLift_pure []
  | cons first rest ih => simp only [inTurn, monadLift_bind, monadLift_pure, List.map_cons, ih]

theorem untilDecided_lift (decides : Value → Bool) (last : Value) (walks : List (m Value)) :
    (monadLift (untilDecided decides last walks) : n Value) =
      untilDecided decides last (walks.map monadLift) := by
  induction walks generalizing last with
  | nil => exact monadLift_pure last
  | cons first rest ih =>
    simp only [untilDecided, monadLift_bind, List.map_cons]
    congr 1
    funext value
    split
    · exact monadLift_pure value
    · exact ih value

theorem firstBranch_lift (walks : List (m Value)) :
    (monadLift (firstBranch walks) : n Value) = firstBranch (walks.map monadLift) := by
  fun_induction firstBranch walks with
  | case1 => exact monadLift_pure Value.null
  | case2 otherwise => rfl
  | case3 condition branch rest ih =>
    simp only [firstBranch, monadLift_bind, List.map_cons]
    congr 1
    funext value
    split
    · rfl
    · exact ih

end

/-! ## The layer of a node -/

variable (ctx : Context) (scope : Scope)

def applied (operator : String) (values : List Value) : Walk Value :=
  match CoreOperator.ofName? operator with
  | some core => Walk.ofAnswer operator (core.apply ctx values)
  | none => scope.call operator values

section
variable {m : Type → Type} [Monad m] [MonadLiftT Walk m]

def layer (inner : Expr → m Value) : Expr → m Value
  | .literal value => pure value
  | .list items => do
    let values ← inTurn (items.map inner)
    pure (.list values)
  | .var path none => pure ((ctx.get? path).getD .null)
  | .var path (some fallback) =>
    let answer := (ctx.get? path).getD .null
    if answer.isNull then inner fallback else pure answer
  | .call operator args =>
    match Connective.ofName? operator with
    | some .and => untilDecided (fun value => !value.isTruthy) (.bool true) (args.map inner)
    | some .or => untilDecided Value.isTruthy (.bool false) (args.map inner)
    | some .choose => firstBranch (args.map inner)
    | none => do
      let values ← inTurn (args.map inner)
      monadLift (applied ctx scope operator values)

theorem layer_congr {first second : Expr → m Value} {e : Expr}
    (same : ∀ operand ∈ e.operands, first operand = second operand) :
    layer ctx scope first e = layer ctx scope second e := by
  cases e with
  | literal value => rfl
  | list items =>
    have maps : items.map first = items.map second := List.map_congr_left same
    simp only [layer, maps]
  | var path fallback =>
    cases fallback with
    | none => rfl
    | some fallback => simp only [layer, same fallback List.mem_cons_self]
  | call operator args =>
    -- Not every operand need be asked for, but what is asked for is an operand.
    have maps : args.map first = args.map second := List.map_congr_left same
    simp only [layer, maps]

end

theorem layer_lift {m : Type → Type} [Monad m] [MonadLiftT Walk m] [LawfulMonadLiftT Walk m]
    (inner : Expr → Walk Value) (e : Expr) :
    (monadLift (layer ctx scope inner e) : m Value) =
      layer ctx scope (fun operand => monadLift (inner operand)) e := by
  cases e with
  | literal value => exact monadLift_pure value
  | list items =>
    simp only [layer, monadLift_bind, monadLift_pure, inTurn_lift, List.map_map]
    rfl
  | var path fallback =>
    cases fallback with
    | none => exact monadLift_pure _
    | some fallback =>
      simp only [layer]
      split
      · rfl
      · exact monadLift_pure _
  | call operator args =>
    simp only [layer]
    split
    · simp only [untilDecided_lift, List.map_map]; rfl
    · simp only [untilDecided_lift, List.map_map]; rfl
    · simp only [firstBranch_lift, List.map_map]; rfl
    · simp only [monadLift_bind, inTurn_lift, List.map_map]; rfl

/-! ## Evaluation by layers -/

theorem evaluateAll_eq_inTurn (items : List Expr) :
    evaluateAll ctx scope items = inTurn (items.map (evaluate ctx scope)) := by
  induction items with
  | nil => rfl
  | cons item rest ih => simp only [evaluateAll, List.map_cons, inTurn, ih]

theorem evaluateAnd_eq_untilDecided (last : Value) (items : List Expr) :
    evaluateAnd ctx scope last items =
      untilDecided (fun value => !value.isTruthy) last (items.map (evaluate ctx scope)) := by
  induction items generalizing last with
  | nil => rfl
  | cons item rest ih =>
    simp only [evaluateAnd, List.map_cons, untilDecided, ih]
    congr 1
    funext value
    cases value.isTruthy <;> rfl

theorem evaluateOr_eq_untilDecided (last : Value) (items : List Expr) :
    evaluateOr ctx scope last items =
      untilDecided Value.isTruthy last (items.map (evaluate ctx scope)) := by
  induction items generalizing last with
  | nil => rfl
  | cons item rest ih => simp only [evaluateOr, List.map_cons, untilDecided, ih]

theorem evaluateChoice_eq_firstBranch : ∀ items : List Expr,
    evaluateChoice ctx scope items = firstBranch (items.map (evaluate ctx scope))
  | [] => rfl
  | [_] => rfl
  | condition :: branch :: rest => by
    simp only [evaluateChoice, List.map_cons, firstBranch, evaluateChoice_eq_firstBranch rest]

theorem evaluate_eq_layer (e : Expr) :
    e.evaluate ctx scope = layer ctx scope (evaluate ctx scope) e := by
  cases e with
  | literal value => rfl
  | list items => simp only [evaluate, layer, evaluateAll_eq_inTurn]
  | var path fallback => cases fallback <;> rfl
  | call operator args =>
    simp only [evaluate, layer, evaluateAll_eq_inTurn, evaluateAnd_eq_untilDecided,
      evaluateOr_eq_untilDecided, evaluateChoice_eq_firstBranch, applied]
    rfl

end Eligibility.Expr
