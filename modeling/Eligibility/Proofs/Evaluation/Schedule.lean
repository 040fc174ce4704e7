import Eligibility.Evaluation.Evaluator

/-!
Evaluation against a deadline, step by step. A worker walks the expression and
sends what it comes to over a channel of one place, while the caller waits for
the reply or for the deadline. Whatever the order of events, the caller gets
what one of the two races gives.
-/

set_option autoImplicit false

namespace Eligibility

inductive Event where
  /-- The worker comes to the end of its walk and sends the result. -/
  | send
  /-- The caller takes the result from the channel. -/
  | receive
  /-- The deadline passes. -/
  | expire
  deriving DecidableEq

/-- The worker, the channel and the caller. -/
structure Attempt where
  walking : Bool
  reply : Option (Except Failure Value)
  answer : Option (Except Failure Value)

namespace Attempt

def started : Attempt := ⟨true, none, none⟩

def refused (failure : Failure) : Attempt := ⟨false, none, some (.error failure)⟩

variable (walked : Except Failure Value) (limit : Duration)

/-- An event that is not due changes nothing. The channel closes as soon as the
caller has an answer, and what is sent later is dropped. -/
def step (attempt : Attempt) : Event → Attempt
  | .send =>
    if attempt.walking then
      match attempt.answer with
      | none => { attempt with walking := false, reply := some walked }
      | some _ => { attempt with walking := false }
    else attempt
  | .receive =>
    match attempt.answer, attempt.reply with
    | none, some result => { attempt with reply := none, answer := some result }
    | _, _ => attempt
  | .expire =>
    match attempt.answer with
    | none => { attempt with reply := none, answer := some (.error (.timeout limit)) }
    | some _ => attempt

def run (attempt : Attempt) (events : List Event) : Attempt :=
  events.foldl (step walked limit) attempt

def prize : Race → Except Failure Value
  | .walk => walked
  | .deadline => .error (.timeout limit)

variable {walked limit} {won : Race → Prop} {attempt : Attempt}

theorem step_cases (attempt : Attempt) (event : Event) :
    attempt.step walked limit event = attempt ∨
    (attempt.answer = none ∧
      attempt.step walked limit event =
        { attempt with walking := false, reply := some walked }) ∨
    (attempt.answer ≠ none ∧
      attempt.step walked limit event = { attempt with walking := false }) ∨
    (∃ result, attempt.answer = none ∧ attempt.reply = some result ∧
      attempt.step walked limit event = { attempt with reply := none, answer := some result }) ∨
    (event = .expire ∧ attempt.answer = none ∧
      attempt.step walked limit event =
        { attempt with reply := none, answer := some (.error (.timeout limit)) }) := by
  obtain ⟨walking, reply, answer⟩ := attempt
  cases event with
  | send =>
    cases walking with
    | false => exact .inl rfl
    | true =>
      cases answer with
      | none => exact .inr (.inl ⟨rfl, rfl⟩)
      | some given => exact .inr (.inr (.inl ⟨nofun, rfl⟩))
  | receive =>
    cases answer with
    | some given => exact .inl rfl
    | none =>
      cases reply with
      | none => exact .inl rfl
      | some result => exact .inr (.inr (.inr (.inl ⟨result, rfl, rfl, rfl⟩)))
  | expire =>
    cases answer with
    | none => exact .inr (.inr (.inr (.inr ⟨rfl, rfl, rfl⟩)))
    | some given => exact .inl rfl

/-- The invariant of an attempt in which only some may win: results come from the
winner, and a caller without an answer can still get the one of the walk. -/
structure Sound (walked : Except Failure Value) (limit : Duration) (won : Race → Prop)
    (attempt : Attempt) : Prop where
  reply : ∀ result, attempt.reply = some result → result = walked
  answer : ∀ result, attempt.answer = some result →
    ∃ race, won race ∧ result = prize walked limit race
  underway : attempt.answer = none → attempt.walking = true ∨ attempt.reply = some walked

theorem started_sound : started.Sound walked limit won where
  reply _ sent := nomatch sent
  answer _ given := nomatch given
  underway _ := .inl rfl

theorem step_sound (sound : attempt.Sound walked limit won) {event : Event} (walk : won .walk)
    (deadline : event = .expire → won .deadline) :
    (attempt.step walked limit event).Sound walked limit won := by
  rcases attempt.step_cases event with
    same | ⟨_, same⟩ | ⟨answered, same⟩ | ⟨result, _, sent, same⟩ | ⟨expires, _, same⟩
  · rw [same]
    exact sound
  · rw [same]
    refine { sound with reply := ?_, underway := fun _ => .inr rfl }
    rintro result ⟨⟩
    rfl
  · rw [same]
    exact { sound with underway := fun waits => absurd waits answered }
  · rw [same]
    refine { reply := nofun, answer := ?_, underway := nofun }
    rintro taken ⟨⟩
    exact ⟨.walk, walk, sound.reply result sent⟩
  · rw [same]
    refine { reply := nofun, answer := ?_, underway := nofun }
    rintro given ⟨⟩
    exact ⟨.deadline, deadline expires, rfl⟩

theorem run_sound (sound : attempt.Sound walked limit won) {events : List Event} (walk : won .walk)
    (deadline : .expire ∈ events → won .deadline) :
    (attempt.run walked limit events).Sound walked limit won := by
  induction events generalizing attempt with
  | nil => exact sound
  | cons event rest ih =>
    have next : (attempt.step walked limit event).Sound walked limit won := by
      refine step_sound sound walk fun expires => deadline ?_
      rw [expires]
      exact List.mem_cons_self
    exact ih next fun later => deadline (List.mem_cons_of_mem _ later)

theorem answer_step {result : Except Failure Value} (given : attempt.answer = some result)
    (event : Event) : (attempt.step walked limit event).answer = some result := by
  -- The three steps that answer or reply are for callers who wait.
  rcases attempt.step_cases event with
    same | ⟨waits, _⟩ | ⟨_, same⟩ | ⟨_, waits, _⟩ | ⟨_, waits, _⟩
  · rw [same, given]
  · cases given.symm.trans waits
  · rw [same, given]
  · cases given.symm.trans waits
  · cases given.symm.trans waits

theorem answer_run {result : Except Failure Value} (given : attempt.answer = some result)
    (events : List Event) : (attempt.run walked limit events).answer = some result := by
  induction events generalizing attempt with
  | nil => exact given
  | cons event rest ih => exact ih (answer_step given event)

/-- No reply is lost: while the caller waits, the walk can still win. -/
theorem answer_send_receive (sound : attempt.Sound walked limit won)
    (waits : attempt.answer = none) :
    (attempt.run walked limit [.send, .receive]).answer = some walked := by
  obtain ⟨walking, reply, answer⟩ := attempt
  cases waits
  rcases sound.underway rfl with going | sent
  · cases going; rfl
  · cases sent
    cases walking with
    | false => rfl
    | true => rfl

/-- The answers of all schedules are the prizes of the two races. -/
theorem answer_started_iff {result : Except Failure Value} :
    (∃ events, (started.run walked limit events).answer = some result) ↔
      ∃ race, result = prize walked limit race := by
  constructor
  · rintro ⟨events, given⟩
    have sound : (started.run walked limit events).Sound walked limit fun _ => True :=
      run_sound started_sound trivial fun _ => trivial
    obtain ⟨race, _, same⟩ := sound.answer result given
    exact ⟨race, same⟩
  · rintro ⟨race, rfl⟩
    cases race with
    | walk => exact ⟨[.send, .receive], rfl⟩
    | deadline => exact ⟨[.expire], rfl⟩

theorem answer_started_of_notMem {events : List Event} {result : Except Failure Value}
    (never : .expire ∉ events) (given : (started.run walked limit events).answer = some result) :
    result = walked := by
  have sound : (started.run walked limit events).Sound walked limit (· = .walk) :=
    run_sound started_sound rfl fun expires => absurd expires never
  obtain ⟨race, rfl, same⟩ := sound.answer result given
  exact same

theorem answer_started_append {events : List Event}
    (waits : (started.run walked limit events).answer = none) :
    (started.run walked limit (events ++ [.send, .receive])).answer = some walked := by
  have sound : (started.run walked limit events).Sound walked limit fun _ => True :=
    run_sound started_sound trivial fun _ => trivial
  have next := answer_send_receive sound waits
  unfold run at next ⊢
  rw [List.foldl_append]
  exact next

end Attempt

end Eligibility
