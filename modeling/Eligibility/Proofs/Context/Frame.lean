import Eligibility.Proofs.Context.LastWrite

/-!
What writes leave alone. A read sees the writes whose paths overlap its own and
no others, so runs of writes that share those, in their order, are read alike.
-/

set_option autoImplicit false

namespace Eligibility.Context

/-- Both contexts hold the same for a path: in the field that it names, if it
names one, and among the open answers. -/
structure AgreesAt (path : String) (first second : Context) : Prop where
  field : (ProfileField.ofKey? path).bind first.profile.get? =
    (ProfileField.ofKey? path).bind second.profile.get?
  answer : find? (Path.ofText path) first.answers = find? (Path.ofText path) second.answers

section
variable {path : String} {first second third : Context}

theorem AgreesAt.refl (path : String) (ctx : Context) : AgreesAt path ctx ctx := ⟨rfl, rfl⟩

theorem AgreesAt.symm (agrees : AgreesAt path first second) : AgreesAt path second first :=
  ⟨agrees.field.symm, agrees.answer.symm⟩

theorem AgreesAt.trans (agrees : AgreesAt path first second) (more : AgreesAt path second third) :
    AgreesAt path first third :=
  ⟨agrees.field.trans more.field, agrees.answer.trans more.answer⟩

theorem AgreesAt.get? (agrees : AgreesAt path first second) :
    first.get? path = second.get? path := by
  simp only [Context.get?, agrees.field, agrees.answer]

/-! ## One write -/

theorem AgreesAt.insert (agrees : AgreesAt path first second) (written : String) (value : Value) :
    AgreesAt path (first.insert written value) (second.insert written value) := by
  constructor
  · cases known : ProfileField.ofKey? path with
    | none => rfl
    | some field =>
      have same : first.profile.get? field = second.profile.get? field := by
        simpa only [known, Option.bind_some] using agrees.field
      simp only [Option.bind_some, profile_insert, same]
  · rw [find?_insert, find?_insert, agrees.answer]

theorem insert_agreesAt (ctx : Context) {written : String}
    (apart : (Path.ofText written).overlaps (Path.ofText path) = false) (value : Value) :
    AgreesAt path (ctx.insert written value) ctx := by
  have elsewhere : written ≠ path := by
    rintro rfl
    rw [Path.overlaps_self] at apart
    cases apart
  constructor
  · cases known : ProfileField.ofKey? path with
    | none => rfl
    | some field =>
      obtain rfl := ProfileField.ofKey?_eq_some_iff.mp known
      simp only [Option.bind_some, profile_insert, ProfileField.after, if_neg elsewhere]
  · have different : Path.ofText written ≠ Path.ofText path :=
      fun same => elsewhere (Path.ofText_inj.mp same)
    rw [find?_insert]
    simp only [Path.afterWrite, different, apart, if_false, Bool.false_eq_true, ite_self]

theorem get?_insert_of_apart (ctx : Context) {written : String}
    (apart : (Path.ofText written).overlaps (Path.ofText path) = false) (value : Value) :
    (ctx.insert written value).get? path = ctx.get? path :=
  (ctx.insert_agreesAt apart value).get?

end

/-! ## Runs of writes -/

def touches (paths : List String) (write : String × Value) : Bool :=
  paths.any fun path => (Path.ofText write.1).overlaps (Path.ofText path)

section
variable {path : String} {paths : List String} (member : path ∈ paths)
include member

theorem insertAll_filter_touches {first second : Context} (agrees : AgreesAt path first second)
    (history : List (String × Value)) :
    AgreesAt path (first.insertAll (history.filter (touches paths))) (second.insertAll history) := by
  induction history generalizing first second with
  | nil => exact agrees
  | cons write rest ih =>
    cases touched : touches paths write with
    | true =>
      rw [List.filter_cons_of_pos touched]
      exact ih (agrees.insert write.1 write.2)
    | false =>
      -- The write is dropped on one side and overlaps no path on the other.
      rw [List.filter_cons_of_neg (by simp [touched])]
      have apart : (Path.ofText write.1).overlaps (Path.ofText path) = false := by
        simpa using List.any_eq_false.mp touched path member
      exact ih (agrees.trans (second.insert_agreesAt apart write.2).symm)

/-- Runs of writes that share the writes at paths overlapping some are read
alike at those. -/
theorem get?_insertAll_of_touches (ctx : Context) {first second : List (String × Value)}
    (same : first.filter (touches paths) = second.filter (touches paths)) :
    (ctx.insertAll first).get? path = (ctx.insertAll second).get? path := by
  have one := insertAll_filter_touches member (.refl path ctx) first
  have other := insertAll_filter_touches member (.refl path ctx) second
  rw [same] at one
  exact (one.symm.trans other).get?

end

/-! ## Data -/

def writesOf (fields : List (String × Json)) : List (String × Value) :=
  (fields.flatMap fun field => leaves field.1 field.2).map fun leaf =>
    (leaf.1, Value.ofJson leaf.2)

theorem ofJson_object (fields : List (String × Json)) :
    ofJson (.object fields) = .ok (empty.insertAll (writesOf fields)) := by
  simp [ofJson, insertAll, writesOf, List.foldl_map]

end Eligibility.Context
