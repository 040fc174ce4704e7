import Eligibility.Operator.Registry

/-!
Computations that may call registered operators. A walk keeps what it comes to
and the calls that were made on the way, also when it fails.
-/

set_option autoImplicit false

namespace Eligibility

structure Call where
  name : String
  args : List Value

structure Walk (α : Type) where
  result : Except Failure α
  calls : List Call

namespace Walk

variable {α β : Type}

protected def pure (a : α) : Walk α := ⟨.ok a, []⟩

protected def bind (walk : Walk α) (next : α → Walk β) : Walk β :=
  match walk.result with
  | .ok a =>
    let after := next a
    ⟨after.result, walk.calls ++ after.calls⟩
  | .error failure => ⟨.error failure, walk.calls⟩

instance : Monad Walk where
  pure := Walk.pure
  bind := Walk.bind

def fail (failure : Failure) : Walk α := ⟨.error failure, []⟩

def ofAnswer (name : String) : Except OperatorProblem α → Walk α
  | .ok a => Walk.pure a
  | .error problem => fail (.operator name problem)

def call (name : String) (operator : Operator) (args : List Value) : Walk Value :=
  { ofAnswer name (operator args) with calls := [⟨name, args⟩] }

theorem ext {first second : Walk α} (results : first.result = second.result)
    (calls : first.calls = second.calls) : first = second := by
  cases first; cases second; simp_all

protected theorem id_map (walk : Walk α) : id <$> walk = walk := by
  obtain ⟨result, calls⟩ := walk
  cases result <;> simp [Functor.map, Walk.bind, Walk.pure]

protected theorem pure_bind (a : α) (next : α → Walk β) : pure a >>= next = next a := by
  simp [pure, bind, Walk.pure, Walk.bind]

protected theorem bind_assoc {γ : Type} (walk : Walk α) (next : α → Walk β) (last : β → Walk γ) :
    walk >>= next >>= last = walk >>= fun a => next a >>= last := by
  obtain ⟨result, calls⟩ := walk
  cases result with
  | error failure => rfl
  | ok a =>
    simp only [bind, Walk.bind]
    cases (next a).result <;> simp

instance : LawfulMonad Walk :=
  LawfulMonad.mk' Walk Walk.id_map Walk.pure_bind Walk.bind_assoc

end Walk

end Eligibility
