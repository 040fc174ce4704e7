import Eligibility.Proofs.Evaluation.Layer

/-!
Plans: computations over operands that are left open. A plan asks for operands by
their positions and goes on with their values. Given the operands, it takes those
that it asks for, one after the other and no others; so operands that it does not
take make no difference to it, and the calls on the way are those of the operands
taken.
-/

set_option autoImplicit false

namespace Eligibility.Expr

inductive Plan (α : Type) where
  | done (a : α)
  | ask (position : Nat) (next : Value → Plan α)

namespace Plan

variable {α β : Type}

protected def bind (plan : Plan α) (next : α → Plan β) : Plan β :=
  match plan with
  | .done a => next a
  | .ask position rest => .ask position fun value => (rest value).bind next

instance : Monad Plan where
  pure := .done
  bind := Plan.bind

def operand (position : Nat) : Plan Value := .ask position .done

def operandsFrom (position count : Nat) : List (Plan Value) :=
  (List.range' position count).map operand

theorem operandsFrom_succ (position count : Nat) :
    operandsFrom position (count + 1) = operand position :: operandsFrom (position + 1) count := by
  rw [operandsFrom, List.range'_succ]
  rfl

theorem ask_bind (position : Nat) (rest : Value → Plan α) (next : α → Plan β) :
    Plan.ask position rest >>= next = .ask position fun value => rest value >>= next := rfl

theorem inTurn_succ (position count : Nat) :
    inTurn (operandsFrom position (count + 1)) = .ask position fun value =>
      inTurn (operandsFrom (position + 1) count) >>= fun values => pure (value :: values) := by
  rw [operandsFrom_succ]
  rfl

theorem untilDecided_succ (decides : Value → Bool) (last : Value) (position count : Nat) :
    untilDecided decides last (operandsFrom position (count + 1)) = .ask position fun value =>
      if decides value then .done value
      else untilDecided decides value (operandsFrom (position + 1) count) := by
  rw [operandsFrom_succ]
  rfl

theorem firstBranch_succ_succ (position count : Nat) :
    firstBranch (operandsFrom position (count + 2)) = .ask position fun value =>
      if value.isTruthy then operand (position + 1)
      else firstBranch (operandsFrom (position + 2) count) := by
  rw [operandsFrom_succ, operandsFrom_succ]
  rfl

/-! ## Given operands -/

section
variable (operands : Nat → Walk Value)

def run : Plan α → Walk α
  | .done a => pure a
  | .ask position next => do
    let value ← operands position
    run (next value)

def taken : Plan α → List Nat
  | .done _ => []
  | .ask position next =>
    position :: match (operands position).result with
      | .ok value => taken (next value)
      | .error _ => []

theorem mem_taken_ask {position other : Nat} {next : Value → Plan α} :
    other ∈ (Plan.ask position next).taken operands ↔ other = position ∨
      ∃ value, (operands position).result = .ok value ∧ other ∈ (next value).taken operands := by
  rw [taken, List.mem_cons]
  cases (operands position).result <;> simp

theorem taken_operand (position : Nat) : (operand position).taken operands = [position] := by
  rw [operand, taken]
  cases (operands position).result <;> rfl

theorem run_operand (position : Nat) : (operand position).run operands = operands position :=
  bind_pure _

theorem result_run_ask (position : Nat) (next : Value → Plan α) :
    ((Plan.ask position next).run operands).result =
      (operands position).result >>= fun value => ((next value).run operands).result := by
  simp only [run, bind, Walk.bind]
  cases (operands position).result <;> rfl

theorem run_bind (plan : Plan α) (next : α → Plan β) :
    (plan >>= next).run operands = plan.run operands >>= fun a => (next a).run operands := by
  induction plan with
  | done a => exact (pure_bind a fun a => (next a).run operands).symm
  | ask position rest ih =>
    calc run operands (.ask position rest >>= next)
        = operands position >>= fun value => (rest value >>= next).run operands := rfl
      _ = operands position >>= fun value =>
            (rest value).run operands >>= fun a => (next a).run operands := by simp only [ih]
      _ = run operands (.ask position rest) >>= fun a => (next a).run operands :=
          (bind_assoc _ _ _).symm

theorem result_run_bind_pure (plan : Plan α) (f : α → β) :
    ((plan >>= fun a => pure (f a)).run operands).result = (plan.run operands).result.map f := by
  rw [run_bind]
  simp only [bind, Walk.bind]
  cases (plan.run operands).result <;> rfl

theorem taken_bind_pure (plan : Plan α) (f : α → β) :
    taken operands (plan >>= fun a => pure (f a)) = taken operands plan := by
  induction plan with
  | done a => rfl
  | ask position rest ih =>
    rw [ask_bind, taken, taken]
    cases (operands position).result with
    | ok value => exact congrArg _ (ih value)
    | error failure => rfl

theorem calls_run (plan : Plan α) :
    (plan.run operands).calls =
      (plan.taken operands).flatMap fun position => (operands position).calls := by
  induction plan with
  | done a => rfl
  | ask position next ih =>
    rw [run, taken, List.flatMap_cons]
    simp only [bind, Walk.bind]
    cases (operands position).result with
    | ok value => exact congrArg _ (ih value)
    | error failure => exact (List.append_nil _).symm

end

theorem run_congr {operands others : Nat → Walk Value} {plan : Plan α}
    (same : ∀ position ∈ plan.taken operands, others position = operands position) :
    plan.run others = plan.run operands ∧ plan.taken others = plan.taken operands := by
  induction plan with
  | done a => exact ⟨rfl, rfl⟩
  | ask position next ih =>
    -- What is asked for first is taken whatever it comes to, and it decides what
    -- is asked for next: so the two plans go on in the same way.
    have here : others position = operands position := same position (by simp [taken])
    simp only [run, taken, bind, Walk.bind, here]
    cases came : (operands position).result with
    | error failure => exact ⟨rfl, rfl⟩
    | ok value =>
      have later : ∀ other ∈ (next value).taken operands, others other = operands other := by
        intro other member
        apply same
        rw [taken, came]
        exact List.mem_cons_of_mem _ member
      obtain ⟨runs, takes⟩ := ih value later
      constructor
      · simp only [runs]
      · simp only [takes]

/-! ## Plans that go from left to right -/

/-- Every operand that is asked for stands behind those asked for before it, and
none before the given position. -/
def Ascends (start : Nat) : Plan α → Prop
  | .done _ => True
  | .ask position next => start ≤ position ∧ ∀ value, (next value).Ascends (position + 1)

theorem Ascends.mono {start earlier : Nat} {plan : Plan α} (ascends : plan.Ascends start)
    (le : earlier ≤ start) : plan.Ascends earlier := by
  cases plan with
  | done a => trivial
  | ask position next => exact ⟨Nat.le_trans le ascends.1, ascends.2⟩

theorem Ascends.bind_pure {start : Nat} {plan : Plan α} (ascends : plan.Ascends start)
    (f : α → β) : (plan >>= fun a => pure (f a)).Ascends start := by
  induction plan generalizing start with
  | done a => trivial
  | ask position next ih => exact ⟨ascends.1, fun value => ih value (ascends.2 value)⟩

theorem Ascends.le_of_mem_taken {operands : Nat → Walk Value} {start position : Nat}
    {plan : Plan α} (ascends : plan.Ascends start) (member : position ∈ plan.taken operands) :
    start ≤ position := by
  induction plan generalizing start with
  | done a => cases member
  | ask first next ih =>
    obtain ⟨le, later⟩ := ascends
    rcases (mem_taken_ask operands).mp member with rfl | ⟨value, -, member⟩
    · exact le
    · have behind : first + 1 ≤ position := ih value (later value) member
      omega

theorem Ascends.pairwise_taken {start : Nat} {plan : Plan α} (ascends : plan.Ascends start)
    (operands : Nat → Walk Value) : (plan.taken operands).Pairwise (· < ·) := by
  induction plan generalizing start with
  | done a => exact .nil
  | ask position next ih =>
    rw [taken]
    cases (operands position).result with
    | error failure => exact List.pairwise_singleton _ _
    | ok value =>
      refine List.pairwise_cons.mpr ⟨fun other member => ?_, ih value (ascends.2 value)⟩
      exact (ascends.2 value).le_of_mem_taken member

theorem ascends_inTurn (start count : Nat) :
    (inTurn (operandsFrom start count)).Ascends start := by
  induction count generalizing start with
  | zero => trivial
  | succ count ih =>
    rw [inTurn_succ]
    exact ⟨Nat.le_refl start, fun value => (ih (start + 1)).bind_pure (value :: ·)⟩

theorem ascends_untilDecided (decides : Value → Bool) (last : Value) (start count : Nat) :
    (untilDecided decides last (operandsFrom start count)).Ascends start := by
  induction count generalizing start last with
  | zero => trivial
  | succ count ih =>
    rw [untilDecided_succ]
    refine ⟨Nat.le_refl start, fun value => ?_⟩
    dsimp only
    split
    · trivial
    · exact ih value (start + 1)

theorem ascends_firstBranch (start : Nat) : ∀ count : Nat,
    (firstBranch (operandsFrom start count)).Ascends start
  | 0 => trivial
  | 1 => ⟨Nat.le_refl start, fun _ => trivial⟩
  | count + 2 => by
    rw [firstBranch_succ_succ]
    refine ⟨Nat.le_refl start, fun value => ?_⟩
    dsimp only
    split
    · exact ⟨Nat.le_refl _, fun _ => trivial⟩
    · exact (ascends_firstBranch (start + 2) count).mono (by omega)

/-! ## Operands in order -/

section
variable (operands : Nat → Walk Value)

abbrev lift : MonadLiftT Plan Walk := ⟨run operands⟩

theorem lawful_lift : @LawfulMonadLiftT Plan Walk _ _ (lift operands) :=
  letI := lift operands
  { monadLift_pure := fun _ => rfl
    monadLift_bind := run_bind operands }

theorem run_inTurn (plans : List (Plan Value)) :
    (inTurn plans).run operands = inTurn (plans.map (run operands)) :=
  @inTurn_lift Plan Walk _ _ (lift operands) (lawful_lift operands) plans

theorem run_untilDecided (decides : Value → Bool) (last : Value) (plans : List (Plan Value)) :
    (untilDecided decides last plans).run operands =
      untilDecided decides last (plans.map (run operands)) :=
  @untilDecided_lift Plan Walk _ _ (lift operands) (lawful_lift operands) decides last plans

theorem run_firstBranch (plans : List (Plan Value)) :
    (firstBranch plans).run operands = firstBranch (plans.map (run operands)) :=
  @firstBranch_lift Plan Walk _ _ (lift operands) (lawful_lift operands) plans

end

end Plan

end Eligibility.Expr
