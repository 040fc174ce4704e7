import Eligibility.Operator.Domain
import Eligibility.Proofs.Json.Ordered
import Eligibility.Proofs.Evaluation.Resolution

/-!
Sessions of a registry. What is done while a session is open may bind and unbind
any name, open further sessions, and be broken off anywhere. The session takes
away the names that it added and nothing else, so every name that its body
leaves alone is bound afterwards as it was before.
-/

set_option autoImplicit false

namespace Eligibility

namespace Operator

def sharedNames : List String :=
  ["between", "within_percent", "age_from_dob", "date_in_past", "date_in_future", "matches_any",
    "count_true", "all_true", "any_true"]

theorem map_fst_shared (now : Moment) : (shared now).map Prod.fst = sharedNames := rfl

end Operator

/-! ## Names taken away -/

namespace Keyed

variable {α : Type} {key : String}

theorem erase_eq_filter (key : String) (entries : List (String × α)) :
    erase key entries = entries.filter (·.1 ≠ key) := by
  induction entries with
  | nil => rfl
  | cons entry rest ih => by_cases same : entry.1 = key <;> simp [erase, same, ih]

theorem filter_insert (keep : String → Bool) (dropped : keep key = false) (a : α)
    (entries : List (String × α)) :
    (insert key a entries).filter (keep ·.1) = entries.filter (keep ·.1) := by
  induction entries with
  | nil => simp [insert, dropped]
  | cons entry rest ih =>
    rw [insert]
    split
    case isTrue same => simp [same, dropped]
    case isFalse =>
      split
      · simp [dropped]
      · rw [List.filter_cons, List.filter_cons, ih]

end Keyed

namespace Registry

variable {registry : Registry} {names : List String} {name : String}

theorem get?_unregister (registry : Registry) (name other : String) :
    (registry.unregister name).get? other =
      if name = other then none else registry.get? other := by
  unfold get? unregister
  split
  · subst other
    exact Keyed.find?_erase_self name _
  · exact Keyed.find?_erase_of_ne ‹_› _

theorem get?_unregisterAll (registry : Registry) (names : List String) (name : String) :
    (registry.unregisterAll names).get? name =
      if name ∈ names then none else registry.get? name := by
  unfold unregisterAll
  induction names generalizing registry with
  | nil => simp
  | cons first rest ih =>
    rw [List.foldl_cons, ih, get?_unregister]
    by_cases same : first = name
    · simp [same]
    · simp [same, Ne.symm same]

theorem entries_unregisterAll (registry : Registry) (names : List String) :
    (registry.unregisterAll names).entries = registry.entries.filter (!names.contains ·.1) := by
  unfold unregisterAll
  induction names generalizing registry with
  | nil => simp
  | cons first rest ih =>
    rw [List.foldl_cons, ih, unregister, Keyed.erase_eq_filter, List.filter_filter]
    refine List.filter_congr fun entry _ => ?_
    simp [Bool.and_comm, eq_comm]

theorem unregisterAll_register (member : name ∈ names) (operator : Operator) :
    (registry.register name operator).unregisterAll names = registry.unregisterAll names := by
  have same : ((registry.register name operator).unregisterAll names).entries =
      (registry.unregisterAll names).entries := by
    rw [entries_unregisterAll, entries_unregisterAll]
    exact Keyed.filter_insert (!names.contains ·) (by simp [member]) operator registry.entries
  exact congrArg Registry.mk same

theorem unregisterAll_registerMissing {operators : List (String × Operator)}
    (missing : ∀ entry ∈ operators, registry.get? entry.1 = none → entry.1 ∈ names) :
    (registry.registerMissing operators).unregisterAll names = registry.unregisterAll names := by
  unfold registerMissing
  induction operators generalizing registry with
  | nil => rfl
  | cons entry rest ih =>
    obtain ⟨first, others⟩ := List.forall_mem_cons.mp missing
    rw [List.foldl_cons, contains_eq_isSome]
    cases bound : registry.get? entry.1 with
    | some operator => exact ih others
    | none =>
      rw [Option.isSome_none, if_neg Bool.false_ne_true, ih fun later member unbound => ?_]
      · exact unregisterAll_register (first bound) entry.2
      · rw [get?_register] at unbound
        split at unbound
        · cases unbound
        · exact others later member unbound

theorem unregisterAll_of_unbound (unbound : ∀ name ∈ names, registry.get? name = none) :
    registry.unregisterAll names = registry := by
  have same : (registry.unregisterAll names).entries = registry.entries := by
    rw [entries_unregisterAll, List.filter_eq_self]
    intro entry member
    have free : entry.1 ∉ names := fun taken =>
      Keyed.find?_eq_none_iff.mp (unbound entry.1 taken) (List.mem_map_of_mem member)
    simp [free]
  exact congrArg Registry.mk same

theorem mem_missingNames {operators : List (String × Operator)} :
    name ∈ registry.missingNames operators ↔
      name ∈ operators.map Prod.fst ∧ registry.get? name = none := by
  simp only [missingNames, List.mem_map, List.mem_filter, contains_eq_isSome,
    Bool.not_eq_true', Option.isSome_eq_false_iff, Option.isNone_iff_eq_none]
  constructor
  · rintro ⟨entry, ⟨member, unbound⟩, rfl⟩
    exact ⟨⟨entry, member, rfl⟩, unbound⟩
  · rintro ⟨⟨entry, member, rfl⟩, unbound⟩
    exact ⟨entry, ⟨member, unbound⟩, rfl⟩

theorem registerMissing_of_bound {operators : List (String × Operator)}
    (bound : ∀ entry ∈ operators, (registry.get? entry.1).isSome) :
    registry.registerMissing operators = registry := by
  unfold registerMissing
  induction operators with
  | nil => rfl
  | cons entry rest ih =>
    obtain ⟨first, others⟩ := List.forall_mem_cons.mp bound
    rw [List.foldl_cons, contains_eq_isSome, if_pos first]
    exact ih others

theorem close_start (registry : Registry) (operators : List (String × Operator)) :
    (Session.start registry operators).close = registry := by
  rw [Session.close, Session.start, unregisterAll_registerMissing, unregisterAll_of_unbound]
  · exact fun name member => (mem_missingNames.mp member).2
  · exact fun entry member unbound =>
      mem_missingNames.mpr ⟨List.mem_map_of_mem member, unbound⟩

end Registry

/-! ## What is done in a session -/

inductive SessionStep where
  | register (name : String) (operator : Operator)
  | unregister (name : String)
  /-- Adds the operators of a moment that are missing, for good. -/
  | registerMissing (now : Moment)
  /-- Opens a session, does what is in it, and closes it however that ends. -/
  | session (now : Moment) (body : List SessionStep)
  /-- Breaks off everything around it, up to the next attempt. -/
  | breakOff
  | attempt (body : List SessionStep)

inductive Ending where
  | finished
  | brokenOff
  deriving DecidableEq, Repr

namespace SessionStep

mutual

def run (table : Moment → List (String × Operator)) :
    SessionStep → Registry → Registry × Ending
  | .register name operator, registry => (registry.register name operator, .finished)
  | .unregister name, registry => (registry.unregister name, .finished)
  | .registerMissing now, registry => (registry.registerMissing (table now), .finished)
  | .session now body, registry =>
    let session := Session.start registry (table now)
    let (inner, ending) := runAll table body session.registry
    ({ session with registry := inner }.close, ending)
  | .breakOff, registry => (registry, .brokenOff)
  | .attempt body, registry => ((runAll table body registry).1, .finished)

def runAll (table : Moment → List (String × Operator)) :
    List SessionStep → Registry → Registry × Ending
  | [], registry => (registry, .finished)
  | step :: rest, registry =>
    match run table step registry with
    | (next, .finished) => runAll table rest next
    | (next, .brokenOff) => (next, .brokenOff)

end

mutual

/-- The names that a step binds or unbinds on its own account, also inside the
sessions that it opens. -/
def touched : SessionStep → List String
  | .register name _ => [name]
  | .unregister name => [name]
  | .registerMissing _ => []
  | .session _ body => touchedByAll body
  | .breakOff => []
  | .attempt body => touchedByAll body

def touchedByAll : List SessionStep → List String
  | [] => []
  | step :: rest => touched step ++ touchedByAll rest

end

def NamedBy (names : List String) (table : Moment → List (String × Operator)) : Prop :=
  ∀ now, (table now).map Prod.fst = names

/-- Adding operators under the given names does not change what `name` means. -/
def Settled (names : List String) (name : String) (registry : Registry) : Prop :=
  (registry.get? name).isSome ∨ name ∉ names

section
variable {table : Moment → List (String × Operator)} {names : List String} {name : String}
  {registry next : Registry}

theorem run_session (now : Moment) (body : List SessionStep) (registry : Registry) :
    (SessionStep.session now body).run table registry =
      ((runAll table body (registry.registerMissing (table now))).1.unregisterAll
          (registry.missingNames (table now)),
        (runAll table body (registry.registerMissing (table now))).2) := rfl

theorem Settled.congr (settled : Settled names name registry)
    (same : next.get? name = registry.get? name) : Settled names name next := by
  rwa [Settled, same]

theorem Settled.get?_registerMissing (settled : Settled names name registry)
    (named : NamedBy names table) (now : Moment) :
    (registry.registerMissing (table now)).get? name = registry.get? name := by
  rw [Registry.get?_registerMissing]
  rcases settled with bound | other
  · exact Option.or_of_isSome bound
  · rw [← named now] at other
    rw [Keyed.find?_eq_none_iff.mpr other, Option.or_none]

theorem Settled.not_mem_added (settled : Settled names name registry)
    (named : NamedBy names table) (now : Moment) :
    name ∉ registry.missingNames (table now) := by
  intro member
  obtain ⟨among, unbound⟩ := Registry.mem_missingNames.mp member
  rw [named now] at among
  rcases settled with bound | other
  · rw [unbound] at bound
    cases bound
  · exact other among

mutual

theorem get?_run (named : NamedBy names table) : ∀ (step : SessionStep) {registry : Registry},
    name ∉ step.touched → Settled names name registry →
    (step.run table registry).1.get? name = registry.get? name
  | .register own operator, registry, free, _ => by
    rw [run, Registry.get?_register, if_neg]
    rintro rfl
    exact free (List.mem_singleton_self own)
  | .unregister own, registry, free, _ => by
    rw [run, Registry.get?_unregister, if_neg]
    rintro rfl
    exact free (List.mem_singleton_self own)
  | .registerMissing now, registry, _, settled => settled.get?_registerMissing named now
  | .session now body, registry, free, settled => by
    -- A settled name is not among those that the session adds and takes away.
    have opened := settled.get?_registerMissing named now
    have inner := get?_runAll named body free (settled.congr opened)
    rw [run_session, Registry.get?_unregisterAll, if_neg (settled.not_mem_added named now)]
    exact inner.trans opened
  | .breakOff, _, _, _ => rfl
  | .attempt body, registry, free, settled => get?_runAll named body free settled

theorem get?_runAll (named : NamedBy names table) :
    ∀ (steps : List SessionStep) {registry : Registry},
    name ∉ touchedByAll steps → Settled names name registry →
    (runAll table steps registry).1.get? name = registry.get? name
  | [], _, _, _ => rfl
  | step :: rest, registry, free, settled => by
    rw [touchedByAll, List.mem_append, not_or] at free
    have first := get?_run named step free.1 settled
    rw [runAll]
    generalize step.run table registry = done at first
    obtain ⟨next, ending⟩ := done
    cases ending with
    | finished => exact (get?_runAll named rest free.2 (settled.congr first)).trans first
    | brokenOff => exact first

end

theorem NamedBy.registerMissing_of_bound (named : NamedBy names table)
    (bound : ∀ name ∈ names, (registry.get? name).isSome) (now : Moment) :
    registry.registerMissing (table now) = registry := by
  refine Registry.registerMissing_of_bound fun entry member => bound entry.1 ?_
  rw [← named now]
  exact List.mem_map_of_mem member

mutual

theorem run_of_untouched (named : NamedBy names table) :
    ∀ (step : SessionStep) {registry : Registry},
    step.touched = [] → (∀ name ∈ names, (registry.get? name).isSome) →
    (step.run table registry).1 = registry
  | .register _ _, _, untouched, _ => by cases untouched
  | .unregister _, _, untouched, _ => by cases untouched
  | .registerMissing now, _, _, bound => named.registerMissing_of_bound bound now
  | .session now body, registry, untouched, bound => by
    have opened := named.registerMissing_of_bound bound now
    -- Nothing is missing, so the session takes nothing away.
    have kept := Registry.close_start registry (table now)
    rw [Session.close, Session.start, opened] at kept
    rw [run_session, opened, runAll_of_untouched named body untouched bound]
    exact kept
  | .breakOff, _, _, _ => rfl
  | .attempt body, _, untouched, bound => runAll_of_untouched named body untouched bound

theorem runAll_of_untouched (named : NamedBy names table) :
    ∀ (steps : List SessionStep) {registry : Registry},
    touchedByAll steps = [] → (∀ name ∈ names, (registry.get? name).isSome) →
    (runAll table steps registry).1 = registry
  | [], _, _, _ => rfl
  | step :: rest, registry, untouched, bound => by
    obtain ⟨first, others⟩ := List.append_eq_nil_iff.mp untouched
    have same := run_of_untouched named step first bound
    rw [runAll]
    generalize step.run table registry = done at same
    obtain ⟨next, ending⟩ := done
    subst same
    cases ending with
    | finished => exact runAll_of_untouched named rest others bound
    | brokenOff => rfl

end

end

end SessionStep

/-! ## Sessions from their opening to their close -/

/-- How a session that adds operators under `names` stands to the registry that
it was opened on: `inner` is what is there just before it closes, `closed` what
is left, and `touched` are the names bound or unbound in between. -/
structure Session.Kept (names : List String) (registry : Registry) (touched : List String)
    (session : Session) (inner closed : Registry) : Prop where
  added_iff : ∀ name, name ∈ session.added ↔ name ∈ names ∧ registry.get? name = none
  opened_all : ∀ name ∈ names, (session.registry.get? name).isSome
  opened_as_before : ∀ name operator, registry.get? name = some operator →
    session.registry.get? name = some operator
  closed_added : ∀ name ∈ session.added, closed.get? name = none
  closed_other : ∀ name, name ∉ session.added → closed.get? name = inner.get? name
  closed_free : ∀ name, name ∉ touched → closed.get? name = registry.get? name
  closed_untouched : touched = [] → closed = registry

section
variable {table : Moment → List (String × Operator)} {names : List String} {name : String}
  (named : SessionStep.NamedBy names table) (registry : Registry) (now : Moment)
  (body : List SessionStep)

theorem get?_start (operators : List (String × Operator)) (name : String) :
    (Session.start registry operators).registry.get? name =
      (registry.get? name).or (Keyed.find? name operators) :=
  Registry.get?_registerMissing registry operators name

theorem get?_start_of_bound (operators : List (String × Operator)) {operator : Operator}
    (bound : registry.get? name = some operator) :
    (Session.start registry operators).registry.get? name = some operator := by
  rw [get?_start, bound, Option.some_or]

include named

theorem isSome_get?_start (member : name ∈ names) :
    ((Session.start registry (table now)).registry.get? name).isSome := by
  rw [get?_start, Option.isSome_or]
  cases found : Keyed.find? name (table now) with
  | some operator => simp
  | none =>
    rw [Keyed.find?_eq_none_iff, named now] at found
    exact absurd member found

theorem settled_start (name : String) :
    SessionStep.Settled names name (Session.start registry (table now)).registry := by
  by_cases member : name ∈ names
  · exact .inl (isSome_get?_start named registry now member)
  · exact .inr member

theorem mem_added :
    name ∈ (Session.start registry (table now)).added ↔
      name ∈ names ∧ registry.get? name = none := by
  rw [← named now]
  exact Registry.mem_missingNames

theorem get?_close_of_free (free : name ∉ SessionStep.touchedByAll body) :
    let session := Session.start registry (table now)
    let inner := (SessionStep.runAll table body session.registry).1
    ({ session with registry := inner } : Session).close.get? name = registry.get? name := by
  intro session inner
  have kept : inner.get? name = session.registry.get? name :=
    SessionStep.get?_runAll named body free (settled_start named registry now name)
  rw [Session.close, Registry.get?_unregisterAll, kept, get?_start]
  split
  case isTrue added => exact (Registry.mem_missingNames.mp added).2.symm
  case isFalse notAdded =>
    -- A name that was not added was bound, or the table does not have it.
    cases bound : registry.get? name with
    | some operator => rfl
    | none =>
      rw [Option.none_or, Keyed.find?_eq_none_iff]
      exact fun among => notAdded (Registry.mem_missingNames.mpr ⟨among, bound⟩)

theorem close_of_untouched (untouched : SessionStep.touchedByAll body = []) :
    let session := Session.start registry (table now)
    let inner := (SessionStep.runAll table body session.registry).1
    ({ session with registry := inner } : Session).close = registry := by
  intro session inner
  have same : inner = session.registry := SessionStep.runAll_of_untouched named body untouched
    fun name member => isSome_get?_start named registry now member
  rw [same]
  exact Registry.close_start registry (table now)

theorem kept_of_run :
    let session := Session.start registry (table now)
    let (inner, ending) := SessionStep.runAll table body session.registry
    let closed := ({ session with registry := inner } : Session).close
    (SessionStep.session now body).run table registry = (closed, ending) ∧
      session.Kept names registry (SessionStep.touchedByAll body) inner closed where
  left := rfl
  right :=
    { added_iff := fun _ => mem_added named registry now
      opened_all := fun _ member => isSome_get?_start named registry now member
      opened_as_before := fun _ _ bound => get?_start_of_bound registry _ bound
      closed_added := fun _ added => (Registry.get?_unregisterAll ..).trans (if_pos added)
      closed_other := fun _ other => (Registry.get?_unregisterAll ..).trans (if_neg other)
      closed_free := fun _ free => get?_close_of_free named registry now body free
      closed_untouched := close_of_untouched named registry now body }

end

/-- Whatever is done while a session with the shared operators is open, and
however that ends, closing it takes away the names that it added and nothing
else. -/
theorem session_never_leaks (registry : Registry) (now : Moment) (body : List SessionStep) :
    let session := Session.start registry (Operator.shared now)
    let (inner, ending) := SessionStep.runAll Operator.shared body session.registry
    let closed := ({ session with registry := inner } : Session).close
    (SessionStep.session now body).run Operator.shared registry = (closed, ending) ∧
      session.Kept Operator.sharedNames registry (SessionStep.touchedByAll body) inner closed :=
  kept_of_run Operator.map_fst_shared registry now body

/-- Someone's own operator under a shared name outlives a session that is broken
off in another one; one that is bound in the session goes with it. -/
theorem session_never_leaks_own_between :
    let now := Moment.midnight ⟨2024, 2, 29, by decide, by decide⟩
    let later := Moment.midnight ⟨2024, 3, 1, by decide, by decide⟩
    let own : Operator := fun _ => .ok (.bool true)
    let registry := Registry.empty.register "between" own
    let broken : List SessionStep := [.session later [.breakOff]]
    let leaving : List SessionStep := .register "all_true" own :: broken
    (SessionStep.session now broken).run Operator.shared registry = (registry, .brokenOff) ∧
    let (closed, _) := (SessionStep.session now leaving).run Operator.shared registry
    closed.get? "between" = some own ∧ closed.get? "all_true" = none := by
  intro now later own registry broken leaving
  obtain ⟨ran, kept⟩ := session_never_leaks registry now broken
  obtain ⟨ran', kept'⟩ := session_never_leaks registry now leaving
  rw [ran, ran', kept.closed_untouched rfl]
  refine ⟨rfl, (kept'.closed_free "between" (by decide)).trans rfl, ?_⟩
  exact kept'.closed_added _ ((kept'.added_iff _).mpr ⟨by decide, rfl⟩)

end Eligibility
