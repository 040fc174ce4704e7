import Eligibility.Proofs.Evaluation.EntryPoints

/-!
A batch of evaluations, step by step. Every pair has a task of its own, which
starts, races against its deadline, or is lost; the caller waits for the tasks
one by one, in the order of the pairs. Whatever the order of events, the results
come in the order of the pairs, and each depends on its own task alone.
-/

set_option autoImplicit false

namespace Eligibility

/-! ## Tasks -/

inductive TaskEvent where
  | start
  | attempt (event : Event)
  /-- The task ends without a result, and the message says why. -/
  | lose (message : String)

def TaskEvent.attempt? : TaskEvent → Option Event
  | .attempt event => some event
  | _ => none

inductive TaskState where
  | queued
  | running (attempt : Attempt)
  | lost (message : String)

structure Task where
  expression : Expr
  context : Context
  state : TaskState

namespace Task

def queued (pair : Expr × Context) : Task := ⟨pair.1, pair.2, .queued⟩

def result? (options : EvaluationOptions) (task : Task) : Option (Except Failure Outcome) :=
  match task.state with
  | .queued => none
  | .running attempt => attempt.answer.map (Evaluator.finish options)
  | .lost message => some (Evaluator.finish options (.error (.unknown message)))

def opening (options : EvaluationOptions) (e : Expr) : Attempt :=
  (Evaluator.depthFailure? e options).elim .started .refused

/-- An event that is not due changes nothing. A task with a result is not lost. -/
def step (evaluator : Evaluator) (options : EvaluationOptions) (task : Task)
    (event : TaskEvent) : Task :=
  match event, task.state with
  | .start, .queued =>
    { task with state := .running (opening options task.expression) }
  | .attempt event, .running attempt =>
    let walked := (task.expression.evaluate task.context (evaluator.scope options)).result
    { task with state := .running (attempt.step walked options.timeout event) }
  | .lose message, _ =>
    match task.result? options with
    | none => { task with state := .lost message }
    | some _ => task
  | _, _ => task

def run (evaluator : Evaluator) (options : EvaluationOptions) (task : Task)
    (events : List TaskEvent) : Task :=
  events.foldl (step evaluator options) task

variable {evaluator : Evaluator} {options : EvaluationOptions} {task : Task}

theorem step_lose (task : Task) (message : String) :
    task.step evaluator options (.lose message) = task ∨
    task.step evaluator options (.lose message) = { task with state := .lost message } := by
  cases given : task.result? options with
  | none => right; simp only [step, given]
  | some outcome => left; simp only [step, given]

theorem result?_step {outcome : Except Failure Outcome}
    (given : task.result? options = some outcome) (event : TaskEvent) :
    (task.step evaluator options event).result? options = some outcome := by
  obtain ⟨e, ctx, state⟩ := task
  cases event with
  | start =>
    cases state with
    | queued => cases given
    | running attempt => exact given
    | lost message => exact given
  | attempt event =>
    cases state with
    | queued => cases given
    | running attempt =>
      obtain ⟨answer, answered, rfl⟩ := Option.map_eq_some_iff.mp given
      exact congrArg (Option.map _) (Attempt.answer_step answered event)
    | lost message => exact given
  | lose message =>
    simp only [step, given]

theorem result?_run {outcome : Except Failure Outcome}
    (given : task.result? options = some outcome) (events : List TaskEvent) :
    (task.run evaluator options events).result? options = some outcome := by
  induction events generalizing task with
  | nil => exact given
  | cons event rest ih => exact ih (result?_step given event)

def scheduled : List TaskEvent → List Event
  | [] => []
  | .start :: rest => rest.filterMap TaskEvent.attempt?
  | .attempt _ :: rest => scheduled rest
  | .lose _ :: rest => scheduled rest

theorem scheduled_append_of_started {events : List TaskEvent} (started : .start ∈ events)
    (more : List TaskEvent) :
    scheduled (events ++ more) = scheduled events ++ more.filterMap TaskEvent.attempt? := by
  induction events with
  | nil => cases started
  | cons event rest ih =>
    cases event with
    | start => exact List.filterMap_append
    | attempt event => exact ih ((List.mem_cons.mp started).resolve_left nofun)
    | lose message => exact ih ((List.mem_cons.mp started).resolve_left nofun)

theorem scheduled_append_of_queued {events : List TaskEvent} (queued : .start ∉ events)
    (more : List TaskEvent) : scheduled (events ++ more) = scheduled more := by
  induction events with
  | nil => rfl
  | cons event rest ih =>
    have later := ih (List.not_mem_of_not_mem_cons queued)
    cases event with
    | start => exact absurd List.mem_cons_self queued
    | attempt event => exact later
    | lose message => exact later

inductive Reached (evaluator : Evaluator) (options : EvaluationOptions) (e : Expr) (ctx : Context)
    (events : List TaskEvent) : Task → Prop where
  | queued : .start ∉ events → Reached evaluator options e ctx events ⟨e, ctx, .queued⟩
  | running : .start ∈ events →
      Reached evaluator options e ctx events
        ⟨e, ctx, .running ((opening options e).run
          (e.evaluate ctx (evaluator.scope options)).result options.timeout (scheduled events))⟩
  | lost (message : String) : .lose message ∈ events →
      Reached evaluator options e ctx events ⟨e, ctx, .lost message⟩

/-- How the result of a pair comes from the events of its task alone: as that of
the race they schedule, which the deadline only wins if it passes, or as that of
a lost task. -/
inductive Yields (evaluator : Evaluator) (options : EvaluationOptions) (e : Expr) (ctx : Context)
    (events : List TaskEvent) (outcome : Except Failure Outcome) : Prop where
  | raced (race : Race) : .start ∈ events →
      evaluator.evaluateScheduled (scheduled events) e ctx options = some outcome →
      outcome = evaluator.evaluateWithin race e ctx options →
      (race = .deadline → .expire ∈ scheduled events) →
      Yields evaluator options e ctx events outcome
  | lost (message : String) : .lose message ∈ events →
      outcome = Evaluator.finish options (.error (.unknown message)) →
      Yields evaluator options e ctx events outcome

section
variable {e : Expr} {ctx : Context} {events : List TaskEvent}

theorem Reached.step (reached : Reached evaluator options e ctx events task)
    (event : TaskEvent) :
    Reached evaluator options e ctx (events ++ [event]) (task.step evaluator options event) := by
  have now : event ∈ events ++ [event] := List.mem_concat_self
  have before : ∀ {other}, other ∈ events → other ∈ events ++ [event] := List.mem_append_left _
  cases reached with
  | queued waits =>
    have still : event ≠ .start → .start ∉ events ++ [event] := fun other member =>
      (List.mem_append.mp member).elim waits fun last => other (List.mem_singleton.mp last).symm
    cases event with
    | start =>
      have next : Reached evaluator options e ctx _ _ := .running now
      rwa [scheduled_append_of_queued waits] at next
    | attempt event => exact .queued (still nofun)
    | lose message => exact .lost message now
  | running started =>
    have next : Reached evaluator options e ctx _ _ := .running (before started)
    rw [scheduled_append_of_started started, Attempt.run, List.foldl_append] at next
    cases event with
    | start => exact next
    | attempt event => exact next
    | lose message =>
      -- A task is lost as long as its race is open, and not after.
      rcases step_lose _ message with same | gone
      · rw [same]
        exact next
      · rw [gone]
        exact .lost message now
  | lost message lose =>
    have next : Reached evaluator options e ctx _ _ := .lost message (before lose)
    cases event with
    | start => exact next
    | attempt event => exact next
    | lose message => exact next

theorem Reached.run (reached : Reached evaluator options e ctx events task)
    (more : List TaskEvent) :
    Reached evaluator options e ctx (events ++ more) (task.run evaluator options more) := by
  induction more generalizing events task with
  | nil => rwa [List.append_nil]
  | cons event rest ih =>
    rw [List.append_cons]
    exact ih (reached.step event)

theorem reached_run (e : Expr) (ctx : Context) (events : List TaskEvent) :
    Reached evaluator options e ctx events ((queued (e, ctx)).run evaluator options events) :=
  Reached.run (.queued List.not_mem_nil) events

theorem yields_of_reached (reached : Reached evaluator options e ctx events task)
    {outcome : Except Failure Outcome} (given : task.result? options = some outcome) :
    Yields evaluator options e ctx events outcome := by
  cases reached with
  | queued => cases given
  | lost message lose => exact .lost message lose (Option.some.inj given).symm
  | running started =>
    have answered : evaluator.evaluateScheduled (scheduled events) e ctx options =
      some outcome := given
    -- Without the deadline there is only one race that it can have been.
    by_cases expires : .expire ∈ scheduled events
    · obtain ⟨race, same⟩ :=
        (evaluator.evaluateScheduled_iff_race e ctx options outcome).mp ⟨_, answered⟩
      exact .raced race started answered same fun _ => expires
    · have direct := evaluator.evaluateScheduled_of_no_deadline expires answered
      have walked := (evaluator.entryPointsAgree_evaluate options e ctx).walk_wins
      have same : outcome = evaluator.evaluateWithin .walk e ctx options :=
        direct.trans walked.symm
      exact .raced .walk started answered same nofun

def settling : List TaskEvent := [.start, .attempt .send, .attempt .receive]

theorem isSome_result?_running (attempts : List Event) :
    let walked := (e.evaluate ctx (evaluator.scope options)).result
    let attempt := (opening options e).run walked options.timeout attempts
    let task : Task := ⟨e, ctx, .running attempt⟩
    ((task.run evaluator options settling).result? options).isSome := by
  intro walked attempt task
  cases given : task.result? options with
  | some outcome => rw [result?_run given, Option.isSome_some]
  | none =>
    have answered := evaluator.evaluateScheduled_append_send given
    rw [Evaluator.evaluateScheduled, Attempt.run, List.foldl_append] at answered
    exact Option.isSome_iff_exists.mpr ⟨_, answered⟩

theorem isSome_result?_settling (reached : Reached evaluator options e ctx events task) :
    ((task.run evaluator options settling).result? options).isSome := by
  cases reached with
  | queued => exact isSome_result?_running []
  | running => exact isSome_result?_running _
  | lost message => rfl

def racing : Race → List TaskEvent
  | .walk => settling
  | .deadline => [.start, .attempt .expire]

theorem lose_notMem_racing (race : Race) (message : String) :
    .lose message ∉ racing race := by
  cases race <;> simp [racing, settling]

theorem result?_racing (race : Race) :
    ((queued (e, ctx)).run evaluator options (racing race)).result? options =
      some (evaluator.evaluateWithin race e ctx options) := by
  rw [Evaluator.evaluateWithin_eq_finish]
  cases verdict : Evaluator.refusal? options.maxDepth e with
  | some failure =>
    cases race with
    | walk => exact evaluator.evaluateScheduled_of_refused verdict [.send, .receive] ctx
    | deadline => exact evaluator.evaluateScheduled_of_refused verdict [.expire] ctx
  | none =>
    cases race with
    | walk => exact evaluator.evaluateScheduled_of_started verdict [.send, .receive] ctx
    | deadline => exact evaluator.evaluateScheduled_of_started verdict [.expire] ctx

end

end Task

/-! ## The batch -/

inductive BatchEvent where
  | task (index : Nat) (event : TaskEvent)
  | collect

structure Batch where
  tasks : List Task
  collected : List (Except Failure Outcome)

namespace Batch

def spawned (pairs : List (Expr × Context)) : Batch := ⟨pairs.map Task.queued, []⟩

def resultAt? (options : EvaluationOptions) (batch : Batch) (index : Nat) :
    Option (Except Failure Outcome) :=
  batch.tasks[index]?.bind (Task.result? options)

def collect (options : EvaluationOptions) (batch : Batch) : Batch :=
  match batch.resultAt? options batch.collected.length with
  | some outcome => { batch with collected := batch.collected ++ [outcome] }
  | none => batch

def step (evaluator : Evaluator) (options : EvaluationOptions) (batch : Batch) :
    BatchEvent → Batch
  | .task index event =>
    { batch with tasks := batch.tasks.modify index (Task.step evaluator options · event) }
  | .collect => batch.collect options

def run (evaluator : Evaluator) (options : EvaluationOptions) (batch : Batch)
    (events : List BatchEvent) : Batch :=
  events.foldl (step evaluator options) batch

def eventsOf (index : Nat) (events : List BatchEvent) : List TaskEvent :=
  events.filterMap fun
    | .task own event => if own = index then some event else none
    | .collect => none

variable {evaluator : Evaluator} {options : EvaluationOptions} {batch : Batch}

theorem tasks_collect (batch : Batch) : (batch.collect options).tasks = batch.tasks := by
  unfold collect
  split <;> rfl

theorem tasks_step (batch : Batch) (event : BatchEvent) (index : Nat) :
    (batch.step evaluator options event).tasks[index]? =
      batch.tasks[index]?.map (Task.run evaluator options · (eventsOf index [event])) := by
  cases event with
  | task own event =>
    simp only [step, List.getElem?_modify, eventsOf, List.filterMap_cons, List.filterMap_nil]
    by_cases same : own = index <;> simp [same, Task.run]
  | collect =>
    rw [step, tasks_collect]
    simp [eventsOf, Task.run]

theorem eventsOf_append (index : Nat) (first second : List BatchEvent) :
    eventsOf index (first ++ second) = eventsOf index first ++ eventsOf index second :=
  List.filterMap_append

theorem tasks_run (batch : Batch) (events : List BatchEvent) (index : Nat) :
    (batch.run evaluator options events).tasks[index]? =
      batch.tasks[index]?.map (Task.run evaluator options · (eventsOf index events)) := by
  induction events generalizing batch with
  | nil => simp [run, eventsOf, Task.run]
  | cons event rest ih =>
    have own : eventsOf index (event :: rest) = eventsOf index [event] ++ eventsOf index rest :=
      eventsOf_append index [event] rest
    calc (batch.run evaluator options (event :: rest)).tasks[index]?
        = (batch.step evaluator options event).tasks[index]?.map
            (Task.run evaluator options · (eventsOf index rest)) := ih _
      _ = batch.tasks[index]?.map
            (Task.run evaluator options · (eventsOf index (event :: rest))) := by
          rw [tasks_step, Option.map_map, own]
          congr 1
          funext task
          exact (List.foldl_append ..).symm

theorem length_tasks_run (batch : Batch) (events : List BatchEvent) :
    (batch.run evaluator options events).tasks.length = batch.tasks.length := by
  induction events generalizing batch with
  | nil => rfl
  | cons event rest ih =>
    refine (ih _).trans ?_
    cases event with
    | task index event => exact List.length_modify ..
    | collect => exact congrArg List.length (tasks_collect batch)

theorem resultAt?_run {index : Nat} {outcome : Except Failure Outcome}
    (given : batch.resultAt? options index = some outcome) (events : List BatchEvent) :
    (batch.run evaluator options events).resultAt? options index = some outcome := by
  obtain ⟨task, found, result⟩ := Option.bind_eq_some_iff.mp given
  rw [resultAt?, tasks_run, found]
  exact Task.result?_run result _

def Sound (options : EvaluationOptions) (batch : Batch) : Prop :=
  ∀ (index : Nat) (outcome : Except Failure Outcome),
    batch.collected[index]? = some outcome → batch.resultAt? options index = some outcome

theorem spawned_sound (pairs : List (Expr × Context)) : (spawned pairs).Sound options := nofun

theorem Sound.step (sound : batch.Sound options) (event : BatchEvent) :
    (batch.step evaluator options event).Sound options := by
  intro index outcome collected
  have kept : batch.resultAt? options index = some outcome →
      (batch.step evaluator options event).resultAt? options index = some outcome :=
    fun given => resultAt?_run given [event]
  cases event with
  | task own event => exact kept (sound index outcome collected)
  | collect =>
    refine kept ?_
    change (batch.collect options).collected[index]? = some outcome at collected
    unfold collect at collected
    split at collected
    case h_2 => exact sound index outcome collected
    case h_1 next awaited =>
      -- The caller waited for the task that stands where the result now does.
      rcases Nat.lt_trichotomy index batch.collected.length with earlier | rfl | later
      · rw [List.getElem?_append_left earlier] at collected
        exact sound index outcome collected
      · rw [List.getElem?_concat_length] at collected
        rwa [← collected]
      · have beyond : (batch.collected ++ [next]).length ≤ index := by
          rwa [List.length_append]
        rw [List.getElem?_eq_none beyond] at collected
        cases collected

theorem Sound.run (sound : batch.Sound options) (events : List BatchEvent) :
    (batch.run evaluator options events).Sound options := by
  induction events generalizing batch with
  | nil => exact sound
  | cons event rest ih => exact ih (sound.step event)

theorem Sound.length_le (sound : batch.Sound options) :
    batch.collected.length ≤ batch.tasks.length := by
  refine Nat.le_of_not_lt fun longer => ?_
  obtain ⟨task, found, _⟩ := Option.bind_eq_some_iff.mp
    (sound _ _ (List.getElem?_eq_getElem longer))
  simp at found

theorem collect_all {count : Nat}
    (done : ∀ index < batch.tasks.length, (batch.resultAt? options index).isSome)
    (left : batch.collected.length + count = batch.tasks.length) :
    (batch.run evaluator options (List.replicate count .collect)).collected.length =
      batch.tasks.length := by
  induction count generalizing batch with
  | zero => exact left
  | succ count ih =>
    have below : batch.collected.length < batch.tasks.length := by omega
    obtain ⟨outcome, awaited⟩ := Option.isSome_iff_exists.mp (done _ below)
    have taken : batch.collect options =
        { batch with collected := batch.collected ++ [outcome] } := by
      unfold collect
      rw [awaited]
    rw [List.replicate_succ, run, List.foldl_cons, step, taken]
    refine ih done ?_
    simp only [List.length_append, List.length_singleton]
    omega

/-! ## Schedules -/

def NoneLost (events : List BatchEvent) : Prop :=
  ∀ index message, .task index (.lose message) ∉ events

theorem mem_eventsOf {index : Nat} {event : TaskEvent} {events : List BatchEvent} :
    event ∈ eventsOf index events ↔ .task index event ∈ events := by
  simp only [eventsOf, List.mem_filterMap]
  constructor
  · rintro ⟨whole, member, mine⟩
    split at mine
    · obtain ⟨rfl, same⟩ := Option.ite_none_right_eq_some.mp mine
      cases same
      exact member
    · cases mine
  · exact fun member => ⟨_, member, if_pos rfl⟩

theorem noneLost_append {first second : List BatchEvent} (former : NoneLost first)
    (latter : NoneLost second) : NoneLost (first ++ second) :=
  fun index message member =>
    (List.mem_append.mp member).elim (former index message) (latter index message)

theorem noneLost_collect (count : Nat) : NoneLost (List.replicate count .collect) :=
  fun _ _ member => nomatch List.eq_of_mem_replicate member

def inTurn (count : Nat) (schedule : Nat → List TaskEvent) : List BatchEvent :=
  (List.range count).flatMap fun index => (schedule index).map (.task index)

theorem noneLost_inTurn {count : Nat} {schedule : Nat → List TaskEvent}
    (faithful : ∀ index message, .lose message ∉ schedule index) :
    NoneLost (inTurn count schedule) := by
  intro index message member
  obtain ⟨own, _, among⟩ := List.mem_flatMap.mp member
  obtain ⟨event, happens, same⟩ := List.mem_map.mp among
  cases same
  exact faithful index message happens

theorem eventsOf_map_task (index own : Nat) (events : List TaskEvent) :
    eventsOf index (events.map (.task own)) = if own = index then events else [] := by
  have mine : eventsOf index (events.map (.task own)) =
      events.filterMap fun event => if own = index then some event else none :=
    List.filterMap_map ..
  rw [mine]
  split
  · exact List.filterMap_some
  · exact List.filterMap_eq_nil_iff.mpr fun _ _ => rfl

theorem eventsOf_inTurn (index count : Nat) (schedule : Nat → List TaskEvent) :
    eventsOf index (inTurn count schedule) = if index < count then schedule index else [] := by
  induction count with
  | zero => rfl
  | succ count ih =>
    have more : inTurn (count + 1) schedule =
        inTurn count schedule ++ (schedule count).map (.task count) := by
      simp [inTurn, List.range_succ]
    rw [more, eventsOf_append, ih, eventsOf_map_task]
    rcases Nat.lt_trichotomy index count with earlier | rfl | later
    · rw [if_pos earlier, if_neg (by omega), if_pos (by omega), List.append_nil]
    · rw [if_neg (by omega), if_pos rfl, if_pos (by omega), List.nil_append]
    · rw [if_neg (by omega), if_neg (by omega), if_neg (by omega), List.nil_append]

/-! ## Whole batches -/

theorem run_append (batch : Batch) (first second : List BatchEvent) :
    batch.run evaluator options (first ++ second) =
      (batch.run evaluator options first).run evaluator options second :=
  List.foldl_append

variable {pairs : List (Expr × Context)} {events : List BatchEvent}

theorem resultAt?_spawned_run (pairs : List (Expr × Context)) (events : List BatchEvent)
    (index : Nat) :
    ((spawned pairs).run evaluator options events).resultAt? options index =
      pairs[index]?.bind fun pair =>
        ((Task.queued pair).run evaluator options (eventsOf index events)).result? options := by
  rw [resultAt?, tasks_run, spawned, List.getElem?_map]
  cases pairs[index]? with
  | none => rfl
  | some pair => rfl

theorem sound_spawned_run (evaluator : Evaluator) (options : EvaluationOptions)
    (pairs : List (Expr × Context)) (events : List BatchEvent) :
    ((spawned pairs).run evaluator options events).Sound options :=
  (spawned_sound pairs).run events

theorem length_tasks_spawned_run (evaluator : Evaluator) (options : EvaluationOptions)
    (pairs : List (Expr × Context)) (events : List BatchEvent) :
    ((spawned pairs).run evaluator options events).tasks.length = pairs.length := by
  rw [length_tasks_run, spawned, List.length_map]

theorem length_collected_le (evaluator : Evaluator) (options : EvaluationOptions)
    (pairs : List (Expr × Context)) (events : List BatchEvent) :
    ((spawned pairs).run evaluator options events).collected.length ≤ pairs.length := by
  have bound := (sound_spawned_run evaluator options pairs events).length_le
  rwa [length_tasks_spawned_run] at bound

/-- A result that was collected is that of the pair in its place, from the
events of the task of that pair alone. -/
theorem result?_of_collected {index : Nat} {outcome : Except Failure Outcome}
    (collected :
      ((spawned pairs).run evaluator options events).collected[index]? = some outcome) :
    ∃ pair, pairs[index]? = some pair ∧
      ((Task.queued pair).run evaluator options (eventsOf index events)).result? options =
        some outcome := by
  have given := sound_spawned_run evaluator options pairs events index outcome collected
  rw [resultAt?_spawned_run] at given
  exact Option.bind_eq_some_iff.mp given

theorem yields_of_collected {index : Nat} {outcome : Except Failure Outcome}
    (collected :
      ((spawned pairs).run evaluator options events).collected[index]? = some outcome) :
    ∃ e ctx, pairs[index]? = some (e, ctx) ∧
      Task.Yields evaluator options e ctx (eventsOf index events) outcome := by
  obtain ⟨⟨e, ctx⟩, found, given⟩ := result?_of_collected collected
  exact ⟨e, ctx, found, Task.yields_of_reached (Task.reached_run e ctx _) given⟩

theorem complete_of_results
    (done : ∀ index < pairs.length,
      (((spawned pairs).run evaluator options events).resultAt? options index).isSome) :
    ∃ count, ((spawned pairs).run evaluator options
      (events ++ List.replicate count .collect)).collected.length = pairs.length := by
  have tasks := length_tasks_spawned_run evaluator options pairs events
  rw [← tasks] at done ⊢
  have bound := (sound_spawned_run evaluator options pairs events).length_le
  obtain ⟨count, left⟩ := Nat.exists_eq_add_of_le bound
  refine ⟨count, ?_⟩
  rw [run_append]
  exact collect_all done left.symm

theorem exists_completion (evaluator : Evaluator) (options : EvaluationOptions)
    (pairs : List (Expr × Context)) (events : List BatchEvent) :
    ∃ more, NoneLost more ∧
      ((spawned pairs).run evaluator options (events ++ more)).collected.length =
        pairs.length := by
  let settled := inTurn pairs.length fun _ => Task.settling
  have done : ∀ index < pairs.length,
      (((spawned pairs).run evaluator options (events ++ settled)).resultAt? options
        index).isSome := by
    intro index below
    rw [resultAt?_spawned_run, List.getElem?_eq_getElem below, Option.bind_some,
      eventsOf_append, eventsOf_inTurn, if_pos below, Task.run, List.foldl_append]
    exact Task.isSome_result?_settling (Task.reached_run ..)
  obtain ⟨count, complete⟩ := complete_of_results done
  refine ⟨settled ++ List.replicate count .collect, ?_, ?_⟩
  · exact noneLost_append (noneLost_inTurn fun _ => by simp [Task.settling]) (noneLost_collect _)
  · rwa [← List.append_assoc]

theorem eq_evaluateMany {collected : List (Except Failure Outcome)} {races : List Race}
    (raced : races.length = pairs.length) (complete : collected.length = pairs.length)
    (each : ∀ index (below : index < pairs.length),
      collected[index]? =
        some (evaluator.evaluateWithin races[index] pairs[index].1 pairs[index].2 options)) :
    collected = evaluator.evaluateMany options (races.zip pairs) := by
  refine List.ext_getElem ?_ ?_
  · rw [complete, Evaluator.evaluateMany, List.length_map, List.length_zip, raced, Nat.min_self]
  · intro index below _
    obtain ⟨_, same⟩ := List.getElem?_eq_some_iff.mp (each index (complete ▸ below))
    rw [same]
    simp only [Evaluator.evaluateMany, List.getElem_map, List.getElem_zip]

theorem exists_races (faithful : NoneLost events)
    (complete :
      ((spawned pairs).run evaluator options events).collected.length = pairs.length) :
    ∃ races : List Race, races.length = pairs.length ∧
      ((spawned pairs).run evaluator options events).collected =
        evaluator.evaluateMany options (races.zip pairs) := by
  have each : ∀ index : Fin pairs.length, ∃ race,
      ((spawned pairs).run evaluator options events).collected[index.val]? =
        some (evaluator.evaluateWithin race pairs[index].1 pairs[index].2 options) := by
    intro index
    have there := List.getElem?_eq_getElem (Nat.lt_of_lt_of_eq index.isLt complete.symm)
    obtain ⟨e, ctx, found, yields⟩ := yields_of_collected there
    obtain ⟨_, same⟩ := List.getElem?_eq_some_iff.mp found
    cases yields with
    | raced race _ _ outcome =>
      refine ⟨race, ?_⟩
      rw [there, outcome, Fin.getElem_fin, same]
    | lost message lose => exact absurd (mem_eventsOf.mp lose) (faithful _ _)
  obtain ⟨race, same⟩ := Classical.axiomOfChoice each
  refine ⟨List.ofFn race, List.length_ofFn, ?_⟩
  refine eq_evaluateMany List.length_ofFn complete fun index below => ?_
  rw [same ⟨index, below⟩, List.getElem_ofFn]
  rfl

theorem exists_schedule {races : List Race} (raced : races.length = pairs.length) :
    ∃ events, NoneLost events ∧
      ((spawned pairs).run evaluator options events).collected =
        evaluator.evaluateMany options (races.zip pairs) := by
  let schedule (index : Nat) : List TaskEvent := races[index]?.elim [] Task.racing
  have decided : NoneLost (inTurn pairs.length schedule) := by
    refine noneLost_inTurn fun index message => ?_
    simp only [schedule]
    cases races[index]? with
    | none => exact List.not_mem_nil
    | some race => exact Task.lose_notMem_racing race message
  obtain ⟨more, faithful, complete⟩ :=
    exists_completion evaluator options pairs (inTurn pairs.length schedule)
  refine ⟨_, noneLost_append decided faithful, eq_evaluateMany raced complete ?_⟩
  intro index below
  have given : ((spawned pairs).run evaluator options
      (inTurn pairs.length schedule ++ more)).resultAt? options index =
        some (evaluator.evaluateWithin races[index] pairs[index].1 pairs[index].2 options) := by
    rw [run_append]
    refine resultAt?_run ?_ more
    rw [resultAt?_spawned_run, List.getElem?_eq_getElem below, Option.bind_some,
      eventsOf_inTurn, if_pos below]
    simp only [schedule]
    rw [List.getElem?_eq_getElem (raced ▸ below)]
    exact Task.result?_racing races[index]
  have there := List.getElem?_eq_getElem (Nat.lt_of_lt_of_eq below complete.symm)
  have collected := sound_spawned_run evaluator options pairs _ index _ there
  rw [there]
  exact collected.symm.trans given

theorem collected_congr {others : List (Expr × Context)} {first second : List BatchEvent}
    {index position : Nat} {outcome other : Except Failure Outcome}
    (same : others[position]? = pairs[index]?)
    (alike : eventsOf index first = eventsOf position second)
    (former : ((spawned pairs).run evaluator options first).collected[index]? = some outcome)
    (latter : ((spawned others).run evaluator options second).collected[position]? =
      some other) : outcome = other := by
  obtain ⟨pair, found, given⟩ := result?_of_collected former
  obtain ⟨pair', found', given'⟩ := result?_of_collected latter
  cases Option.some.inj (found'.symm.trans (same.trans found))
  rw [alike, given'] at given
  exact (Option.some.inj given).symm

end Batch

namespace Evaluator

/-- A batch keeps the order of its pairs and loses no result. Whatever the order
of events, the caller has the result of each pair in the place of the pair, from
the events of its own task alone, and can always come to have all of them. -/
theorem evaluateMany_keeps_order (evaluator : Evaluator) (options : EvaluationOptions)
    (pairs : List (Expr × Context)) :
    (∀ events,
      let collected := ((Batch.spawned pairs).run evaluator options events).collected
      collected.length ≤ pairs.length ∧
      (∀ index outcome, collected[index]? = some outcome →
        ∃ e ctx, pairs[index]? = some (e, ctx) ∧
          Task.Yields evaluator options e ctx (Batch.eventsOf index events) outcome) ∧
      (Batch.NoneLost events → collected.length = pairs.length →
        ∃ races : List Race, races.length = pairs.length ∧
          collected = evaluator.evaluateMany options (races.zip pairs)) ∧
      ∃ more, Batch.NoneLost more ∧
        ((Batch.spawned pairs).run evaluator options (events ++ more)).collected.length =
          pairs.length) ∧
    (∀ races : List Race, races.length = pairs.length →
      ∃ events, Batch.NoneLost events ∧
        ((Batch.spawned pairs).run evaluator options events).collected =
          evaluator.evaluateMany options (races.zip pairs)) ∧
    (∀ (others : List (Expr × Context)) (first second : List BatchEvent)
        (index position : Nat) (outcome other : Except Failure Outcome),
      others[position]? = pairs[index]? →
      Batch.eventsOf index first = Batch.eventsOf position second →
      ((Batch.spawned pairs).run evaluator options first).collected[index]? = some outcome →
      ((Batch.spawned others).run evaluator options second).collected[position]? = some other →
      outcome = other) := by
  refine ⟨fun events => ⟨?_, ?_, ?_, ?_⟩, ?_, ?_⟩
  · exact Batch.length_collected_le evaluator options pairs events
  · exact fun _ _ => Batch.yields_of_collected
  · exact Batch.exists_races
  · exact Batch.exists_completion evaluator options pairs events
  · exact fun _ => Batch.exists_schedule
  · exact fun _ _ _ _ _ _ _ => Batch.collected_congr

/-- The second pair is done before the first is begun, and the first is late in
strict mode; or the first is lost. The second has its own result either way. -/
theorem evaluateMany_keeps_order_late_first :
    let evaluator : Evaluator := ⟨Registry.empty.register "probe" fun _ => .error (.refused "no")⟩
    let pairs : List (Expr × Context) :=
      [(.call "probe" [], .empty), (.literal (.bool true), .empty)]
    let strict : EvaluationOptions := { EvaluationOptions.standard with strict := true }
    let second : List BatchEvent := Task.settling.map (.task 1)
    let late : List BatchEvent :=
      second ++ [.task 0 .start, .task 0 (.attempt .expire), .collect, .collect]
    let lost : List BatchEvent := second ++ [.task 0 (.lose "gone"), .collect, .collect]
    ((Batch.spawned pairs).run evaluator strict late).collected =
      [.error (.timeout (.ofMillis 5000)), .ok ⟨.ok (.bool true), false⟩] ∧
    (∃ races : List Race, races.length = 2 ∧
      ((Batch.spawned pairs).run evaluator strict late).collected =
        evaluator.evaluateMany strict (races.zip pairs)) ∧
    (∃ events, ((Batch.spawned pairs).run evaluator strict events).collected =
      evaluator.evaluateMany strict ([.walk, .deadline].zip pairs)) ∧
    ∃ own, ((Batch.spawned pairs).run evaluator strict lost).collected =
      [.error (.unknown "gone"), own] ∧ own = .ok ⟨.ok (.bool true), false⟩ := by
  intro evaluator pairs strict second late lost
  obtain ⟨runs, schedules, congruent⟩ := evaluateMany_keeps_order evaluator strict pairs
  have collected : ((Batch.spawned pairs).run evaluator strict late).collected =
        [.error (.timeout (.ofMillis 5000)), .ok ⟨.ok (.bool true), false⟩] ∧
      ∃ other, ((Batch.spawned pairs).run evaluator strict lost).collected =
        [.error (.unknown "gone"), other] := by
    have probe : depthFailure? (.call "probe" []) strict = none := by
      rw [depthFailure?_eq_refusal?]
      rfl
    have literal : depthFailure? (.literal (.bool true)) strict = none := by
      rw [depthFailure?_eq_refusal?]
      rfl
    simp only [late, lost, second, pairs, Task.settling, Batch.spawned, Task.queued,
      List.map_cons, List.map_nil, List.cons_append, List.nil_append, Batch.run,
      List.foldl_cons, List.foldl_nil, Batch.step, Task.step, Task.opening,
      List.modify_zero_cons, List.modify_succ_cons, probe, literal, Option.elim_none]
    exact ⟨rfl, _, rfl⟩
  obtain ⟨inTime, other, without⟩ := collected
  have faithful : Batch.NoneLost late := by
    intro index message
    simp [late, second, Task.settling]
  refine ⟨inTime, ?_, ?_, other, without, ?_⟩
  · exact (runs late).2.2.1 faithful (by rw [inTime]; rfl)
  · obtain ⟨events, _, same⟩ := schedules [.walk, .deadline] rfl
    exact ⟨events, same⟩
  · have own : ((Batch.spawned pairs).run evaluator strict lost).collected[1]? = some other := by
      rw [without]
      rfl
    exact congruent pairs lost late 1 1 other _ rfl rfl own (by rw [inTime]; rfl)

end Evaluator

end Eligibility
