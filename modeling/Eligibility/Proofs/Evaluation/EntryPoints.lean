import Eligibility.Proofs.Evaluation.Guard
import Eligibility.Proofs.Evaluation.Schedule

/-!
The entry points of the evaluator give one answer. Strict and lenient
evaluations differ only in where they put a failure; a deadline changes nothing
but that it may win; and rules and data from JSON are evaluated as what they
denote.
-/

set_option autoImplicit false

namespace Eligibility

/-! ## What cannot be read -/

section
variable {α β : Type}

def BlamesRule (reading : Except Failure α) : Prop :=
  ∀ failure, reading = .error failure → failure.code = .invalidRule

theorem BlamesRule.pure (a : α) : BlamesRule (pure a : Except Failure α) := nofun

theorem BlamesRule.bind {reading : Except Failure α} {next : α → Except Failure β}
    (first : BlamesRule reading) (after : ∀ a, BlamesRule (next a)) :
    BlamesRule (reading >>= next) := by
  intro failure failed
  cases reading with
  | ok a => exact after a failure failed
  | error early => cases failed; exact first _ rfl

end

namespace Expr

theorem pathOf_blamesRule (json : Json) : BlamesRule (pathOf json) := by
  intro failure failed
  cases json <;> cases failed <;> rfl

mutual

theorem ofOperand_blamesRule : ∀ json : Json, BlamesRule (ofOperand json)
  | .null => BlamesRule.pure _
  | .bool _ => BlamesRule.pure _
  | .number _ => BlamesRule.pure _
  | .text _ => BlamesRule.pure _
  | .array items => by
    rw [ofOperand]
    exact (ofOperands_blamesRule items).bind fun operands => .pure _
  | .object [] => by rintro _ ⟨⟩; rfl
  | .object [(operator, argument)] => by
    unfold ofOperand
    split
    · -- A read: its path is looked at last, after the fallback if there is one.
      split
      · exact .pure _
      · exact (pathOf_blamesRule _).bind fun path => .pure _
      · rename_i fallback _
        exact (ofOperand_blamesRule fallback).bind fun fallback =>
          (pathOf_blamesRule _).bind fun path => .pure _
      · exact (pathOf_blamesRule _).bind fun path => .pure _
    · split
      · rename_i items
        exact (ofOperands_blamesRule items).bind fun operands => .pure _
      · exact (ofOperand_blamesRule argument).bind fun operand => .pure _
  | .object (_ :: _ :: _) => by rintro _ ⟨⟩; rfl

theorem ofOperands_blamesRule : ∀ items : List Json, BlamesRule (ofOperands items)
  | [] => BlamesRule.pure _
  | item :: rest => by
    rw [ofOperands]
    exact (ofOperand_blamesRule item).bind fun operand =>
      (ofOperands_blamesRule rest).bind fun operands => .pure _

end

theorem ofJson_blamesRule (json : Json) : BlamesRule (ofJson json) := by
  unfold ofJson
  split
  · rintro _ ⟨⟩; rfl
  · exact ofOperand_blamesRule json

end Expr

namespace Evaluator

theorem prepare_error {rule data : Json} {failure : Failure}
    (failed : prepare rule data = .error failure) :
    failure.code = .invalidRule ∨ failure.code = .invalidData := by
  unfold prepare at failed
  cases read : Expr.ofJson rule with
  | error early =>
    rw [read] at failed
    cases failed
    exact .inl (Expr.ofJson_blamesRule rule _ read)
  | ok e =>
    rw [read] at failed
    cases data with
    | object fields => cases failed
    | null => cases failed; exact .inr rfl
    | bool b => cases failed; exact .inr rfl
    | number n => cases failed; exact .inr rfl
    | text s => cases failed; exact .inr rfl
    | array items => cases failed; exact .inr rfl

/-! ## Modes -/

structure ModesAgree (strict lenient : Except Failure Outcome) : Prop where
  lenient_ok : ∃ outcome, lenient = .ok outcome
  thrown_iff : ∀ failure,
    strict = .error failure ↔ ∃ outcome, lenient = .ok outcome ∧ outcome.failure? = some failure
  failed_value : ∀ outcome, lenient = .ok outcome → outcome.isSuccess = false →
    outcome.value = .bool false
  success_iff : ∀ outcome, strict = .ok outcome ↔ lenient = .ok outcome ∧ outcome.isSuccess = true

theorem modesAgree_finish (options : EvaluationOptions) (result : Except Failure Value) :
    ModesAgree (finish { options with strict := true } result)
      (finish { options with strict := false } result) := by
  cases result with
  | ok value =>
    refine ⟨⟨_, rfl⟩, ?_, ?_, ?_⟩
    · intro failure
      simp [finish, Outcome.failure?]
    · rintro outcome ⟨⟩ failed
      cases failed
    · intro outcome
      constructor
      · rintro ⟨⟩
        exact ⟨rfl, rfl⟩
      · exact fun given => given.1
  | error failure =>
    refine ⟨⟨_, rfl⟩, ?_, ?_, ?_⟩
    · intro thrown
      simp [finish, Outcome.failure?]
    · rintro outcome ⟨⟩ failed
      rfl
    · intro outcome
      constructor
      · rintro ⟨⟩
      · rintro ⟨⟨⟩, success⟩
        cases success

/-- The answer is this failure: thrown in strict mode, and otherwise told by an
outcome whose value is false. -/
def FailsWith (options : EvaluationOptions) (failure : Failure)
    (answer : Except Failure Outcome) : Prop :=
  if options.strict then answer = .error failure
  else ∃ outcome, answer = .ok outcome ∧ outcome.failure? = some failure ∧
    outcome.value = .bool false

theorem failsWith_finish (options : EvaluationOptions) (failure : Failure) :
    FailsWith options failure (finish options (.error failure)) := by
  unfold FailsWith finish
  split
  · simp [*]
  · simp [*, Outcome.failure?, Outcome.value]

/-! ## Races -/

/-- How an evaluation without a deadline and one with a deadline answer each
other, when `refusal` is why neither may start. -/
structure EntryPointsAgree (options : EvaluationOptions) (refusal : Option Failure)
    (direct : EvaluationOptions → Except Failure Outcome)
    (within : Race → EvaluationOptions → Except Failure Outcome) : Prop where
  direct_modes :
    ModesAgree (direct { options with strict := true }) (direct { options with strict := false })
  within_modes : ∀ race,
    ModesAgree (within race { options with strict := true })
      (within race { options with strict := false })
  walk_wins : within .walk options = direct options
  deadline_wins : refusal = none →
    FailsWith options (.timeout options.timeout) (within .deadline options)
  refused : ∀ failure, refusal = some failure →
    failure.code ≠ .timeout ∧ FailsWith options failure (direct options) ∧
    ∀ race, within race options = direct options

theorem entryPointsAgree_of_finish {options : EvaluationOptions} {refusal : Option Failure}
    {direct : EvaluationOptions → Except Failure Outcome}
    {within : Race → EvaluationOptions → Except Failure Outcome}
    (walked : Except Failure Value)
    (reason : ∀ failure, refusal = some failure → failure.code ≠ .timeout)
    (directly : ∀ strict, direct { options with strict } =
      finish { options with strict } (refusal.elim walked .error))
    (raced : ∀ race strict, within race { options with strict } =
      finish { options with strict }
        (refusal.elim (Attempt.prize walked options.timeout race) .error)) :
    EntryPointsAgree options refusal direct within where
  direct_modes := by
    rw [directly true, directly false]
    exact modesAgree_finish options _
  within_modes race := by
    rw [raced race true, raced race false]
    exact modesAgree_finish options _
  walk_wins := (raced .walk options.strict).trans (directly options.strict).symm
  deadline_wins free := by
    have answer := raced .deadline options.strict
    rw [free] at answer
    rw [answer]
    exact failsWith_finish options _
  refused failure told := by
    subst told
    have answer : direct options = finish options (.error failure) := directly options.strict
    refine ⟨reason failure rfl, ?_, ?_⟩
    · rw [answer]
      exact failsWith_finish options failure
    · intro race
      rw [answer]
      exact raced race options.strict

/-! ## Expressions -/

def refusal? (limit : Nat) (e : Expr) : Option Failure :=
  if limit < e.depth then some (.tooDeep e.depth limit) else none

theorem depthFailure?_eq_refusal? (e : Expr) (options : EvaluationOptions) :
    depthFailure? e options = refusal? options.maxDepth e := by
  simp only [depthFailure?, refusal?, Expr.measuredDepth_eq_depth]

theorem code_of_refusal? {limit : Nat} {e : Expr} {failure : Failure}
    (refused : refusal? limit e = some failure) : failure.code = .maxDepthExceeded := by
  unfold refusal? at refused
  split at refused
  · cases refused; rfl
  · cases refused

variable (evaluator : Evaluator)

theorem evaluate_eq_finish (e : Expr) (ctx : Context) (options : EvaluationOptions) :
    evaluator.evaluate e ctx options =
      finish options ((refusal? options.maxDepth e).elim
        (e.evaluate ctx (evaluator.scope options)).result .error) := by
  unfold evaluate run walk
  rw [depthFailure?_eq_refusal?]
  cases refusal? options.maxDepth e with
  | none => rfl
  | some failure => rfl

theorem evaluateWithin_eq_finish (race : Race) (e : Expr) (ctx : Context)
    (options : EvaluationOptions) :
    evaluator.evaluateWithin race e ctx options =
      finish options ((refusal? options.maxDepth e).elim
        (Attempt.prize (e.evaluate ctx (evaluator.scope options)).result options.timeout race)
        .error) := by
  unfold evaluateWithin runWithin
  rw [depthFailure?_eq_refusal?]
  cases refusal? options.maxDepth e with
  | none => cases race <;> rfl
  | some failure => rfl

theorem entryPointsAgree_evaluate (options : EvaluationOptions) (e : Expr) (ctx : Context) :
    EntryPointsAgree options (refusal? options.maxDepth e) (evaluator.evaluate e ctx)
      (fun race => evaluator.evaluateWithin race e ctx) := by
  -- The mode is no part of what is walked: scope, limit and deadline stay.
  refine entryPointsAgree_of_finish (e.evaluate ctx (evaluator.scope options)).result ?_ ?_ ?_
  · intro failure refused
    rw [code_of_refusal? refused]
    decide
  · exact fun strict => evaluator.evaluate_eq_finish e ctx { options with strict }
  · exact fun race strict => evaluator.evaluateWithin_eq_finish race e ctx { options with strict }

/-- What the caller of an evaluation with a deadline has after some events, if
anything. A refused expression is given to no worker. -/
def evaluateScheduled (events : List Event) (e : Expr) (ctx : Context)
    (options : EvaluationOptions) : Option (Except Failure Outcome) :=
  let attempt := (depthFailure? e options).elim Attempt.started Attempt.refused
  let walked := (e.evaluate ctx (evaluator.scope options)).result
  (attempt.run walked options.timeout events).answer.map (finish options)

theorem evaluateScheduled_of_refused {e : Expr} {options : EvaluationOptions} {failure : Failure}
    (refused : refusal? options.maxDepth e = some failure) (events : List Event) (ctx : Context) :
    evaluator.evaluateScheduled events e ctx options = some (finish options (.error failure)) := by
  unfold evaluateScheduled
  rw [depthFailure?_eq_refusal?, refused]
  have final : ∀ walked limit,
      ((Attempt.refused failure).run walked limit events).answer = some (.error failure) :=
    fun walked limit => Attempt.answer_run rfl events
  simp only [Option.elim_some, final, Option.map_some]

theorem evaluateScheduled_of_started {e : Expr} {options : EvaluationOptions}
    (free : refusal? options.maxDepth e = none) (events : List Event) (ctx : Context) :
    evaluator.evaluateScheduled events e ctx options =
      (Attempt.started.run (e.evaluate ctx (evaluator.scope options)).result options.timeout
        events).answer.map (finish options) := by
  unfold evaluateScheduled
  rw [depthFailure?_eq_refusal?, free]
  rfl

theorem evaluateScheduled_iff_race (e : Expr) (ctx : Context) (options : EvaluationOptions)
    (answer : Except Failure Outcome) :
    (∃ events, evaluator.evaluateScheduled events e ctx options = some answer) ↔
      ∃ race, answer = evaluator.evaluateWithin race e ctx options := by
  simp only [evaluateWithin_eq_finish]
  cases verdict : refusal? options.maxDepth e with
  | some failure =>
    simp only [evaluator.evaluateScheduled_of_refused verdict, Option.elim_some]
    constructor
    · rintro ⟨_, ⟨⟩⟩
      exact ⟨.walk, rfl⟩
    · rintro ⟨_, rfl⟩
      exact ⟨[], rfl⟩
  | none =>
    simp only [evaluator.evaluateScheduled_of_started verdict, Option.elim_none]
    constructor
    · rintro ⟨events, given⟩
      obtain ⟨result, got, rfl⟩ := Option.map_eq_some_iff.mp given
      obtain ⟨race, rfl⟩ := Attempt.answer_started_iff.mp ⟨events, got⟩
      exact ⟨race, rfl⟩
    · rintro ⟨race, rfl⟩
      obtain ⟨events, got⟩ := Attempt.answer_started_iff.mpr ⟨race, rfl⟩
      exact ⟨events, by rw [got]; rfl⟩

theorem evaluateScheduled_of_no_deadline {events : List Event} {e : Expr} {ctx : Context}
    {options : EvaluationOptions} {answer : Except Failure Outcome} (never : .expire ∉ events)
    (given : evaluator.evaluateScheduled events e ctx options = some answer) :
    answer = evaluator.evaluate e ctx options := by
  rw [evaluate_eq_finish]
  cases verdict : refusal? options.maxDepth e with
  | some failure =>
    rw [evaluator.evaluateScheduled_of_refused verdict] at given
    exact (Option.some.inj given).symm
  | none =>
    rw [evaluator.evaluateScheduled_of_started verdict] at given
    obtain ⟨result, got, rfl⟩ := Option.map_eq_some_iff.mp given
    rw [Attempt.answer_started_of_notMem never got]
    rfl

theorem evaluateScheduled_append_send {events : List Event} {e : Expr} {ctx : Context}
    {options : EvaluationOptions}
    (waits : evaluator.evaluateScheduled events e ctx options = none) :
    evaluator.evaluateScheduled (events ++ [.send, .receive]) e ctx options =
      some (evaluator.evaluate e ctx options) := by
  rw [evaluate_eq_finish]
  cases verdict : refusal? options.maxDepth e with
  | some failure =>
    rw [evaluator.evaluateScheduled_of_refused verdict] at waits
    cases waits
  | none =>
    rw [evaluator.evaluateScheduled_of_started verdict] at waits ⊢
    rw [Attempt.answer_started_append (Option.map_eq_none_iff.mp waits)]
    rfl

/-! ## Rules and data from JSON -/

def jsonRefusal? (limit : Nat) (rule data : Json) : Option Failure :=
  match prepare rule data with
  | .ok (e, _) => refusal? limit e
  | .error failure => some failure

theorem entryPointsAgree_evaluateJson (options : EvaluationOptions) (rule data : Json) :
    EntryPointsAgree options (jsonRefusal? options.maxDepth rule data)
      (evaluator.evaluateJson rule data)
      (fun race => evaluator.evaluateJsonWithin race rule data) := by
  cases parsed : prepare rule data with
  | ok pair =>
    obtain ⟨e, ctx⟩ := pair
    have direct : evaluator.evaluateJson rule data = evaluator.evaluate e ctx := by
      funext options
      simp only [evaluateJson, runJson, parsed, evaluate]
    have within : (fun race => evaluator.evaluateJsonWithin race rule data) =
        fun race => evaluator.evaluateWithin race e ctx := by
      funext race options
      simp only [evaluateJsonWithin, runJsonWithin, parsed, evaluateWithin]
    have refusal : jsonRefusal? options.maxDepth rule data = refusal? options.maxDepth e := by
      simp only [jsonRefusal?, parsed]
    rw [direct, within, refusal]
    exact evaluator.entryPointsAgree_evaluate options e ctx
  | error failure =>
    refine entryPointsAgree_of_finish (.error failure) ?_ ?_ ?_
    · intro told refused
      simp only [jsonRefusal?, parsed] at refused
      cases refused
      rcases prepare_error parsed with ofRule | ofData
      · rw [ofRule]; decide
      · rw [ofData]; decide
    · intro strict
      simp only [evaluateJson, runJson, jsonRefusal?, parsed]
      rfl
    · intro race strict
      simp only [evaluateJsonWithin, runJsonWithin, jsonRefusal?, parsed]
      rfl

/-- All entry points agree: in their modes, over both ends of the race and over
every schedule of worker and caller, on expressions and on raw JSON. -/
theorem entry_points_agree (options : EvaluationOptions) :
    (∀ e ctx,
      EntryPointsAgree options (refusal? options.maxDepth e) (evaluator.evaluate e ctx)
        (fun race => evaluator.evaluateWithin race e ctx) ∧
      (∀ answer,
        (∃ events, evaluator.evaluateScheduled events e ctx options = some answer) ↔
          ∃ race, answer = evaluator.evaluateWithin race e ctx options) ∧
      (∀ events answer, .expire ∉ events →
        evaluator.evaluateScheduled events e ctx options = some answer →
        answer = evaluator.evaluate e ctx options) ∧
      (∀ events, evaluator.evaluateScheduled events e ctx options = none →
        evaluator.evaluateScheduled (events ++ [.send, .receive]) e ctx options =
          some (evaluator.evaluate e ctx options))) ∧
    (∀ rule data,
      EntryPointsAgree options (jsonRefusal? options.maxDepth rule data)
        (evaluator.evaluateJson rule data)
        (fun race => evaluator.evaluateJsonWithin race rule data) ∧
      ∀ e ctx, prepare rule data = .ok (e, ctx) →
        evaluator.evaluateJson rule data options = evaluator.evaluate e ctx options ∧
        ∀ race, evaluator.evaluateJsonWithin race rule data options =
          evaluator.evaluateWithin race e ctx options) := by
  refine ⟨fun e ctx => ⟨?_, ?_, ?_, ?_⟩, fun rule data => ⟨?_, ?_⟩⟩
  · exact evaluator.entryPointsAgree_evaluate options e ctx
  · exact evaluator.evaluateScheduled_iff_race e ctx options
  · exact fun _ _ never given => evaluator.evaluateScheduled_of_no_deadline never given
  · exact fun _ waits => evaluator.evaluateScheduled_append_send waits
  · exact evaluator.entryPointsAgree_evaluateJson options rule data
  · intro e ctx parsed
    simp only [evaluateJson, evaluateJsonWithin, runJson, runJsonWithin, parsed]
    exact ⟨rfl, fun _ => rfl⟩

/-- An operator that refuses its call: the refusal is thrown by every strict
evaluation that the walk wins, and the timeout by one that it loses. -/
theorem entry_points_agree_of_refusing_probe :
    let evaluator : Evaluator := ⟨Registry.empty.register "probe" fun _ => .error (.refused "no")⟩
    let rule : Json := .object [("probe", .array [])]
    let e : Expr := .call "probe" []
    let strict : EvaluationOptions := { EvaluationOptions.standard with strict := true }
    let refusal : Failure := .operator "probe" (.refused "no")
    prepare rule (.object []) = .ok (e, .empty) ∧
    evaluator.evaluate e .empty strict = .error refusal ∧
    evaluator.evaluateJsonWithin .walk rule (.object []) strict = .error refusal ∧
    evaluator.evaluateJsonWithin .deadline rule (.object []) strict =
      .error (.timeout (.ofMillis 5000)) ∧
    ∃ events, evaluator.evaluateScheduled events e .empty strict =
      some (.error (.timeout (.ofMillis 5000))) := by
  intro evaluator rule e strict refusal
  have parsed : prepare rule (.object []) = .ok (e, .empty) := rfl
  obtain ⟨onExpressions, onJson⟩ := entry_points_agree evaluator strict
  obtain ⟨agree, scheduled, _, _⟩ := onExpressions e .empty
  obtain ⟨direct, within⟩ := (onJson rule (.object [])).2 e .empty parsed
  have told : evaluator.evaluate e .empty .standard = .ok ⟨.error refusal, false⟩ :=
    evaluator.evaluate_eq_finish e .empty .standard
  have thrown : evaluator.evaluate e .empty strict = .error refusal :=
    (agree.direct_modes.thrown_iff refusal).mpr ⟨_, told, rfl⟩
  have late : evaluator.evaluateWithin .deadline e .empty strict =
      .error (.timeout (.ofMillis 5000)) := agree.deadline_wins rfl
  refine ⟨parsed, thrown, ?_, ?_, ?_⟩
  · rw [within, agree.walk_wins, thrown]
  · rw [within, late]
  · exact (scheduled _).mpr ⟨.deadline, late.symm⟩

end Evaluator

end Eligibility
