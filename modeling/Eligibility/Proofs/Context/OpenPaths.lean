import Eligibility.Proofs.Context.LastWrite
import Eligibility.Proofs.Context.Nested

/-!
Reading a path that is no profile field after any run of writes. The last write
at a path that overlaps it decides: it is read back if it was made at the path
itself, and otherwise nothing is. A context that keeps its open answers in
nested maps reads the same at every path.
-/

set_option autoImplicit false

namespace Eligibility

namespace Context

/-! ## One write -/

section
variable {path : String} (isOpen : ProfileField.ofKey? path = none)
include isOpen

theorem get?_of_open (ctx : Context) : ctx.get? path = find? (Path.ofText path) ctx.answers := by
  simp [get?, isOpen]

/-- Every write has the same effect on a path that is no field, whether it is
made at a field and taken, at a field and refused, or at a path that is no field. -/
theorem get?_insert_of_open (ctx : Context) (written : String) (value : Value) :
    (ctx.insert written value).get? path =
      (Path.ofText path).afterWrite (Path.ofText written) value (ctx.get? path) := by
  rw [get?_of_open isOpen, get?_of_open isOpen, find?_insert]
  split
  case isTrue taken =>
    -- What a field takes is written at another path than this one.
    have elsewhere : Path.ofText written ≠ Path.ofText path := by
      intro same
      rw [Path.ofText_inj.mp same, isOpen] at taken
      cases taken
    rw [Path.afterWrite, if_neg elsewhere]
  case isFalse => rfl

end

/-! ## A run of writes -/

def lastOverlap? (path : String) (history : List (String × Value)) : Option (String × Value) :=
  history.reverse.find? fun write => (Path.ofText write.1).overlaps (Path.ofText path)

theorem lastOverlap?_cons (path : String) (write : String × Value)
    (history : List (String × Value)) :
    lastOverlap? path (write :: history) =
      (lastOverlap? path history).or
        (if (Path.ofText write.1).overlaps (Path.ofText path) then some write else none) := by
  unfold lastOverlap?
  rw [List.reverse_cons, List.find?_append, List.find?_singleton]

theorem get?_insertAll_of_open (ctx : Context) (history : List (String × Value)) {path : String}
    (isOpen : ProfileField.ofKey? path = none) :
    (ctx.insertAll history).get? path =
      match lastOverlap? path history with
      | some (written, value) => if written = path then some value else none
      | none => ctx.get? path := by
  induction history generalizing ctx with
  | nil => rfl
  | cons write rest ih =>
    have run : ctx.insertAll (write :: rest) = (ctx.insert write.1 write.2).insertAll rest := rfl
    rw [run, ih, lastOverlap?_cons]
    cases later : lastOverlap? path rest with
    | some write => rfl
    | none =>
      -- No later write counts, so this one decides if it overlaps the path.
      simp only [Option.none_or]
      rw [get?_insert_of_open isOpen, Path.afterWrite]
      by_cases same : write.1 = path
      · simp [same, Path.overlaps_self]
      · have apart : Path.ofText write.1 ≠ Path.ofText path :=
          fun equal => same (Path.ofText_inj.mp equal)
        cases hit : (Path.ofText write.1).overlaps (Path.ofText path) <;> simp [same, apart]

end Context

/-! ## Nested maps -/

/-- One person's answers with the open ones in nested maps. -/
structure NestedContext where
  profile : Profile
  answers : Answers

namespace NestedContext

def ofProfile (profile : Profile) : NestedContext := ⟨profile, []⟩

def put (ctx : NestedContext) (path : Path) (value : Value) : NestedContext :=
  { ctx with answers := ctx.answers.write value path }

def insert (path : String) (value : Value) (ctx : NestedContext) : NestedContext :=
  match ProfileField.ofKey? path with
  | none => ctx.put (Path.ofText path) value
  | some field =>
    match ctx.profile.set field value with
    | .ok profile => ⟨profile, Keyed.erase path ctx.answers⟩
    | .error rejected => ctx.put (Path.ofText path) rejected

def get? (ctx : NestedContext) (path : String) : Option Value :=
  ((ProfileField.ofKey? path).bind ctx.profile.get?).or (ctx.answers.read? (Path.ofText path))

def insertAll (ctx : NestedContext) (history : List (String × Value)) : NestedContext :=
  history.foldl (fun ctx write => ctx.insert write.1 write.2) ctx

/-- Both hold the same profile, and every path leads to the same open answer. -/
structure Agrees (nested : NestedContext) (ctx : Context) : Prop where
  profile : nested.profile = ctx.profile
  reads : ∀ path : Path, path ≠ [] → nested.answers.read? path = Context.find? path ctx.answers

variable {nested : NestedContext} {ctx : Context}

theorem Agrees.ofProfile (profile : Profile) :
    Agrees (ofProfile profile) (Context.ofProfile profile) :=
  ⟨rfl, fun path _ => Answers.read?_nil path⟩

theorem Agrees.put (agrees : Agrees nested ctx) {written : Path} (target : written ≠ [])
    (value : Value) : Agrees (nested.put written value) (ctx.put written value) := by
  refine ⟨agrees.profile, fun path nonempty => ?_⟩
  calc (nested.put written value).answers.read? path
      = path.afterWrite written value (nested.answers.read? path) :=
        Answers.read?_write value written path nested.answers target nonempty
    _ = path.afterWrite written value (Context.find? path ctx.answers) := by
        rw [agrees.reads path nonempty]
    _ = Context.find? path (ctx.put written value).answers :=
        (ctx.find?_put written path value).symm

theorem Agrees.insert (agrees : Agrees nested ctx) (path : String) (value : Value) :
    Agrees (nested.insert path value) (ctx.insert path value) := by
  unfold NestedContext.insert Context.insert
  rw [agrees.profile]
  cases known : ProfileField.ofKey? path with
  | none => exact agrees.put (Path.ofText_ne_nil path) value
  | some field =>
    dsimp only
    cases result : ctx.profile.set field value with
    | error rejected => exact agrees.put (Path.ofText_ne_nil path) rejected
    | ok changed =>
      refine ⟨rfl, fun read nonempty => ?_⟩
      obtain rfl := ProfileField.ofKey?_eq_some_iff.mp known
      change Answers.read? read (Keyed.erase field.key nested.answers) =
        Context.find? read (Context.apart (Path.ofText field.key) ctx.answers)
      rw [Answers.read?_erase _ _ nonempty, Context.find?_apart, Path.ofText_key,
        agrees.reads read nonempty]

theorem Agrees.insertAll (agrees : Agrees nested ctx) (history : List (String × Value)) :
    Agrees (nested.insertAll history) (ctx.insertAll history) := by
  induction history generalizing nested ctx with
  | nil => exact agrees
  | cons write rest ih => exact ih (agrees.insert write.1 write.2)

theorem Agrees.get? (agrees : Agrees nested ctx) (path : String) :
    nested.get? path = ctx.get? path := by
  unfold NestedContext.get? Context.get?
  rw [agrees.profile, agrees.reads _ (Path.ofText_ne_nil path)]
  cases (ProfileField.ofKey? path).bind ctx.profile.get? <;> rfl

end NestedContext

namespace Context

/-- After any run of writes on a profile, a path that is no field reads as the
last write that overlaps it left it, whether the open answers are kept apart or
in nested maps. -/
theorem get?_follows_last_overlap (profile : Profile) (history : List (String × Value))
    {path : String} (isOpen : ProfileField.ofKey? path = none) :
    let ctx := (ofProfile profile).insertAll history
    ctx.get? path =
      (match lastOverlap? path history with
      | some (written, value) => if written = path then some value else none
      | none => none) ∧
    ∀ other, ((NestedContext.ofProfile profile).insertAll history).get? other = ctx.get? other := by
  intro ctx
  constructor
  · have untouched : (ofProfile profile).get? path = none := get?_of_open isOpen _
    exact (get?_insertAll_of_open (ofProfile profile) history isOpen).trans (by rw [untouched])
  · exact fun other => ((NestedContext.Agrees.ofProfile profile).insertAll history).get? other

/-- An answer below a field goes when the field is written, and comes back with
a new write; a path with an empty segment keeps its null. -/
theorem get?_below_field :
    let history : List (String × Value) :=
      [("age.months", .int 3), ("a..b", .text "x"), ("age", .int 40), ("a..b", .null)]
    let ctx := empty.insertAll history
    ProfileField.ofKey? "age.months" = none ∧
    ctx.get? "age.months" = none ∧
    ctx.get? "a..b" = some .null ∧
    ((ctx.insert "age.months" (.int 5)).get? "age.months") = some (.int 5) := by
  intro history ctx
  have open₁ : ProfileField.ofKey? "age.months" = none := by decide
  have open₂ : ProfileField.ofKey? "a..b" = none := by decide
  refine ⟨open₁, ?_, ?_, ?_⟩
  · exact (get?_follows_last_overlap .empty history open₁).1
  · exact (get?_follows_last_overlap .empty history open₂).1
  · exact (get?_follows_last_overlap .empty (history ++ [("age.months", .int 5)]) open₁).1

end Context

end Eligibility
