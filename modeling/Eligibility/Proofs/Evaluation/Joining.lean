import Eligibility.Expr.Build
import Eligibility.Proofs.Evaluation.Layer

/-!
Connectives of expressions built in code. A chain of one connective is kept flat,
and evaluates as the nested calls do, calls of operators included: the loop over a
chain is the loop over its first part, and then, unless that has decided, the loop
over the rest.
-/

set_option autoImplicit false

namespace Eligibility.Expr

/-! ## The loop of a connective -/

section
variable {m : Type → Type} [Monad m] [LawfulMonad m] {decides : Value → Bool}

def unlessDecided (decides : Value → Bool) (first second : m Value) : m Value := do
  let value ← first
  if decides value then pure value else second

theorem unlessDecided_assoc (first second third : m Value) :
    unlessDecided decides (unlessDecided decides first second) third =
      unlessDecided decides first (unlessDecided decides second third) := by
  unfold unlessDecided
  rw [bind_assoc]
  congr 1
  funext value
  split
  case isTrue decided => rw [pure_bind, if_pos decided]
  case isFalse => rfl

/-- The value to start from must not decide, or the loop over no operands would
keep the rest from being taken. -/
theorem untilDecided_append {last : Value} (undecided : decides last = false)
    (first rest : List (m Value)) :
    untilDecided decides last (first ++ rest) = (do
      let value ← untilDecided decides last first
      if decides value then pure value else untilDecided decides value rest) := by
  induction first generalizing last with
  | nil =>
    simp only [List.nil_append, untilDecided, pure_bind, undecided, Bool.false_eq_true, if_false]
  | cons walk walks ih =>
    simp only [List.cons_append, untilDecided, bind_assoc]
    congr 1
    funext value
    split
    case isTrue decided => rw [pure_bind, if_pos decided]
    case isFalse open_ => exact ih (Bool.eq_false_iff.mpr open_)

theorem untilDecided_singleton (last : Value) (walk : m Value) :
    untilDecided decides last [walk] = walk := by
  simp only [untilDecided, ite_self, bind_pure]

theorem untilDecided_concat {last : Value} (undecided : decides last = false)
    (walks : List (m Value)) (walk : m Value) :
    untilDecided decides last (walks ++ [walk]) =
      unlessDecided decides (untilDecided decides last walks) walk := by
  simp only [untilDecided_append undecided, untilDecided_singleton, unlessDecided]

theorem untilDecided_pair {last : Value} (undecided : decides last = false)
    (first second : m Value) :
    untilDecided decides last [first, second] = unlessDecided decides first second := by
  have joined := untilDecided_concat undecided [first] second
  rwa [untilDecided_singleton] at joined

end

/-! ## Chains -/

section
variable {ctx : Context} {scope : Scope}

structure Loops (ctx : Context) (scope : Scope) (connective : String) (decides : Value → Bool)
    (start : Value) : Prop where
  undecided : decides start = false
  evaluates : ∀ args, (call connective args).evaluate ctx scope =
    untilDecided decides start (args.map (evaluate ctx scope))

theorem loops_and : Loops ctx scope "and" (fun value => !value.isTruthy) (.bool true) where
  undecided := rfl
  evaluates args := evaluate_eq_layer ctx scope (.call "and" args)

theorem loops_or : Loops ctx scope "or" Value.isTruthy (.bool false) where
  undecided := rfl
  evaluates args := evaluate_eq_layer ctx scope (.call "or" args)

variable {connective : String} {decides : Value → Bool} {start : Value}

theorem Loops.evaluate_pair (loops : Loops ctx scope connective decides start)
    (left right : Expr) :
    (call connective [left, right]).evaluate ctx scope =
      unlessDecided decides (left.evaluate ctx scope) (right.evaluate ctx scope) := by
  rw [loops.evaluates]
  exact untilDecided_pair loops.undecided _ _

theorem Loops.evaluate_join (loops : Loops ctx scope connective decides start)
    (left right : Expr) :
    (join connective left right).evaluate ctx scope =
      (call connective [left, right]).evaluate ctx scope := by
  unfold join
  split
  case h_1 operator args =>
    split
    case isTrue same =>
      subst same
      rw [loops.evaluate_pair, loops.evaluates, loops.evaluates, List.map_append]
      exact untilDecided_concat loops.undecided _ _
    case isFalse => rfl
  case h_2 => rfl

theorem Loops.evaluate_join_assoc (loops : Loops ctx scope connective decides start)
    (first second third : Expr) :
    (join connective (join connective first second) third).evaluate ctx scope =
      (join connective first (join connective second third)).evaluate ctx scope := by
  simp only [loops.evaluate_join, loops.evaluate_pair, unlessDecided_assoc]

end

theorem depthOfAll_append (first second : List Expr) :
    depthOfAll (first ++ second) = max (depthOfAll first) (depthOfAll second) := by
  induction first with
  | nil => simp [depthOfAll]
  | cons item rest ih => simp only [List.cons_append, depthOfAll, ih, Nat.max_assoc]

theorem depth_join_le (connective : String) (left right : Expr) :
    (join connective left right).depth ≤ (call connective [left, right]).depth := by
  unfold join
  split
  case h_1 operator args =>
    split
    case isTrue =>
      simp only [depth, depthOfAll, depthOfAll_append]
      omega
    case isFalse => exact Nat.le_refl _
  case h_2 => exact Nat.le_refl _

/-- A chain that is kept flat evaluates as the nested calls of two operands, to the
same value or failure by the same calls of operators, whether the first operand is
a chain already, even one of fewer than two operands, or not. So it does not matter
how a chain is built up, and it is no deeper than the nested calls. -/
theorem chains_evaluate_as_nested (first second third : Expr) (ctx : Context) (scope : Scope) :
    (first.and second).evaluate ctx scope = (call "and" [first, second]).evaluate ctx scope ∧
    (first.or second).evaluate ctx scope = (call "or" [first, second]).evaluate ctx scope ∧
    ((first.and second).and third).evaluate ctx scope =
      (first.and (second.and third)).evaluate ctx scope ∧
    ((first.or second).or third).evaluate ctx scope =
      (first.or (second.or third)).evaluate ctx scope ∧
    (first.and second).depth ≤ (call "and" [first, second]).depth ∧
    (first.or second).depth ≤ (call "or" [first, second]).depth :=
  ⟨loops_and.evaluate_join first second, loops_or.evaluate_join first second,
    loops_and.evaluate_join_assoc first second third,
    loops_or.evaluate_join_assoc first second third,
    depth_join_le "and" first second, depth_join_le "or" first second⟩

end Eligibility.Expr
