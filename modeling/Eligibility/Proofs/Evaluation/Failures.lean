import Eligibility.Proofs.Evaluation.Layer

/-!
Why an evaluation can fail: nothing but the operators that an expression calls
makes its evaluation fail.
-/

set_option autoImplicit false

namespace Eligibility

namespace Walk

variable {α β : Type} {allowed : Failure → Prop}

def FailsOnly (allowed : Failure → Prop) (walk : Walk α) : Prop :=
  ∀ failure, walk.result = .error failure → allowed failure

theorem FailsOnly.pure (a : α) : (pure a : Walk α).FailsOnly allowed :=
  fun _ failed => nomatch failed

theorem FailsOnly.bind {walk : Walk α} {next : α → Walk β} (first : walk.FailsOnly allowed)
    (after : ∀ a, (next a).FailsOnly allowed) : (walk >>= next).FailsOnly allowed := by
  intro failure failed
  obtain ⟨result, calls⟩ := walk
  cases result with
  | ok a => exact after a failure failed
  | error early => cases failed; exact first failure rfl

theorem FailsOnly.mono {wider : Failure → Prop} {walk : Walk α} (fails : walk.FailsOnly allowed)
    (more : ∀ failure, allowed failure → wider failure) : walk.FailsOnly wider :=
  fun failure failed => more failure (fails failure failed)

theorem FailsOnly.ofAnswer {name : String} (blames : ∀ problem, allowed (.operator name problem))
    (answer : Except OperatorProblem α) : (ofAnswer name answer).FailsOnly allowed := by
  intro failure failed
  cases answer with
  | ok a => cases failed
  | error problem => cases failed; exact blames problem

end Walk

namespace Expr

variable {allowed : Failure → Prop}

theorem inTurn_failsOnly {walks : List (Walk Value)}
    (each : ∀ walk ∈ walks, walk.FailsOnly allowed) : (inTurn walks).FailsOnly allowed := by
  induction walks with
  | nil => exact .pure []
  | cons first rest ih =>
    obtain ⟨here, later⟩ := List.forall_mem_cons.mp each
    exact here.bind fun value => (ih later).bind fun values => .pure _

theorem untilDecided_failsOnly (decides : Value → Bool) (last : Value)
    {walks : List (Walk Value)} (each : ∀ walk ∈ walks, walk.FailsOnly allowed) :
    (untilDecided decides last walks).FailsOnly allowed := by
  induction walks generalizing last with
  | nil => exact .pure last
  | cons first rest ih =>
    obtain ⟨here, later⟩ := List.forall_mem_cons.mp each
    refine here.bind fun value => ?_
    split
    · exact .pure value
    · exact ih value later

theorem firstBranch_failsOnly {walks : List (Walk Value)}
    (each : ∀ walk ∈ walks, walk.FailsOnly allowed) :
    (firstBranch walks).FailsOnly allowed := by
  fun_induction firstBranch walks with
  | case1 => exact .pure Value.null
  | case2 otherwise => exact each otherwise List.mem_cons_self
  | case3 condition branch rest ih =>
    obtain ⟨here, later⟩ := List.forall_mem_cons.mp each
    obtain ⟨taken, others⟩ := List.forall_mem_cons.mp later
    refine here.bind fun value => ?_
    split
    · exact taken
    · exact ih others

mutual

def operators : Expr → List String
  | .literal _ => []
  | .list items => operatorsOfAll items
  | .var _ none => []
  | .var _ (some fallback) => operators fallback
  | .call operator args => operator :: operatorsOfAll args

def operatorsOfAll : List Expr → List String
  | [] => []
  | item :: rest => operators item ++ operatorsOfAll rest

end

theorem operators_subset_operatorsOfAll {operand : Expr} {items : List Expr}
    (member : operand ∈ items) : operand.operators ⊆ operatorsOfAll items := by
  induction items with
  | nil => cases member
  | cons item rest ih =>
    intro name called
    rcases List.mem_cons.mp member with rfl | later
    · exact List.mem_append_left _ called
    · exact List.mem_append_right _ (ih later called)

theorem operators_subset {e operand : Expr} (member : operand ∈ e.operands) :
    operand.operators ⊆ e.operators := by
  cases e with
  | literal value => cases member
  | list items => exact operators_subset_operatorsOfAll member
  | var path fallback =>
    cases fallback with
    | none => cases member
    | some fallback => rw [List.mem_singleton.mp member]; exact List.Subset.refl _
  | call operator args =>
    exact fun name called =>
      List.mem_cons_of_mem _ (operators_subset_operatorsOfAll member called)

def Blames (e : Expr) (failure : Failure) : Prop :=
  ∃ name ∈ e.operators, ∃ problem, failure = .operator name problem

variable (ctx : Context) (scope : Scope)

theorem applied_failsOnly {operator : String} (values : List Value)
    (blames : ∀ problem, allowed (.operator operator problem)) :
    (applied ctx scope operator values).FailsOnly allowed := by
  unfold applied
  split
  · exact .ofAnswer blames _
  · unfold Scope.call
    split
    · exact .ofAnswer blames _
    · intro failure failed
      cases failed
      exact blames .unregistered

theorem layer_failsOnly {inner : Expr → Walk Value} {e : Expr}
    (each : ∀ operand ∈ e.operands, (inner operand).FailsOnly allowed)
    (blames : ∀ failure, e.Blames failure → allowed failure) :
    (layer ctx scope inner e).FailsOnly allowed := by
  have mapped : ∀ walk ∈ e.operands.map inner, walk.FailsOnly allowed := by
    intro walk member
    obtain ⟨operand, inside, rfl⟩ := List.mem_map.mp member
    exact each operand inside
  cases e with
  | literal value => exact .pure value
  | list items => exact (inTurn_failsOnly mapped).bind fun values => .pure _
  | var path fallback =>
    cases fallback with
    | none => exact .pure _
    | some fallback =>
      simp only [layer]
      split
      · exact each fallback List.mem_cons_self
      · exact .pure _
  | call operator args =>
    -- A connective has no failure of its own; every other call may blame its name.
    simp only [layer]
    split
    · exact untilDecided_failsOnly _ _ mapped
    · exact untilDecided_failsOnly _ _ mapped
    · exact firstBranch_failsOnly mapped
    · refine (inTurn_failsOnly mapped).bind fun values => applied_failsOnly ctx scope values ?_
      exact fun problem => blames _ ⟨operator, List.mem_cons_self, problem, rfl⟩

theorem evaluate_failsOnly (e : Expr) : (e.evaluate ctx scope).FailsOnly e.Blames := by
  induction e using operandInduction with
  | step e ih =>
    rw [evaluate_eq_layer]
    refine layer_failsOnly ctx scope (fun operand member => ?_) fun _ blamed => blamed
    refine (ih operand member).mono ?_
    rintro failure ⟨name, called, problem, rfl⟩
    exact ⟨name, operators_subset member called, problem, rfl⟩

end Expr

end Eligibility
