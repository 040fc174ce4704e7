import Eligibility.Proofs.Context.Overlap
import Eligibility.Proofs.Context.Profile

/-!
Reading a profile field back after any run of writes. A value that the field
takes is read back as the field holds it, and null as no answer. A value that
the field refuses is read back only if the field was empty: what the field took
before stays in its place and hides the refused value.
-/

set_option autoImplicit false

namespace Eligibility

def ProfileField.after (field : ProfileField) (slot : Option Value) (write : String × Value) :
    Option Value :=
  if write.1 = field.key then (field.takes? write.2).getD slot else slot

namespace Context

def insertAll (ctx : Context) (history : List (String × Value)) : Context :=
  history.foldl (fun ctx write => ctx.insert write.1 write.2) ctx

section
variable (ctx : Context) (field : ProfileField) {value : Value}

theorem insert_of_takes {slot : Option Value} (takes : field.takes? value = some slot) :
    ∃ changed, ctx.profile.set field value = .ok changed ∧
      ctx.insert field.key value = ⟨changed, apart (Path.ofText field.key) ctx.answers⟩ ∧
      ∀ other, changed.get? other = if other = field then slot else ctx.profile.get? other := by
  obtain ⟨changed, accepted, reads⟩ := Profile.set_of_takes ctx.profile takes
  refine ⟨changed, accepted, ?_, reads⟩
  simp [insert, ProfileField.ofKey?_key, accepted]

theorem insert_of_refuses (refuses : field.takes? value = none) :
    ctx.insert field.key value = ctx.put (Path.ofText field.key) value := by
  simp [insert, ProfileField.ofKey?_key, Profile.set_of_refuses ctx.profile refuses]

theorem get?_key :
    ctx.get? field.key =
      (ctx.profile.get? field).or (find? (Path.ofText field.key) ctx.answers) := by
  unfold get?
  rw [ProfileField.ofKey?_key, Option.bind_some]
  cases ctx.profile.get? field <;> rfl

theorem get?_insert_key (value : Value) :
    (ctx.insert field.key value).get? field.key =
      match field.takes? value with
      | some slot => slot
      | none => (ctx.profile.get? field).or (some value) := by
  cases takes : field.takes? value with
  | some slot =>
    obtain ⟨changed, _, same, reads⟩ := ctx.insert_of_takes field takes
    rw [same, get?_key, reads field, if_pos rfl, find?_apart, if_pos (Path.overlaps_self _),
      Option.or_none]
  | none =>
    rw [ctx.insert_of_refuses field takes, get?_key, find?_put, Path.afterWrite, if_pos rfl]
    rfl

end

theorem find?_insert (ctx : Context) (written : String) (value : Value) (path : Path) :
    find? path (ctx.insert written value).answers =
      if ((ProfileField.ofKey? written).bind (·.takes? value)).isSome then
        if (Path.ofText written).overlaps path then none else find? path ctx.answers
      else path.afterWrite (Path.ofText written) value (find? path ctx.answers) := by
  cases known : ProfileField.ofKey? written with
  | none =>
    have stored : ctx.insert written value = ctx.put (Path.ofText written) value := by
      simp [insert, known]
    rw [stored, find?_put]
    rfl
  | some field =>
    obtain rfl := ProfileField.ofKey?_eq_some_iff.mp known
    cases takes : field.takes? value with
    | some slot =>
      obtain ⟨changed, _, stored, _⟩ := ctx.insert_of_takes field takes
      rw [stored, find?_apart]
      simp [takes]
    | none =>
      rw [ctx.insert_of_refuses field takes, find?_put]
      simp [takes]

theorem profile_insert (ctx : Context) (path : String) (value : Value) (field : ProfileField) :
    (ctx.insert path value).profile.get? field =
      field.after (ctx.profile.get? field) (path, value) := by
  unfold ProfileField.after
  cases known : ProfileField.ofKey? path with
  | none =>
    have elsewhere : path ≠ field.key := by
      rintro rfl
      rw [ProfileField.ofKey?_key] at known
      cases known
    simp [insert, known, put, elsewhere]
  | some written =>
    obtain rfl := ProfileField.ofKey?_eq_some_iff.mp known
    -- A write reaches the field only by its own key.
    have here : written.key = field.key ↔ field = written := by
      constructor
      · intro same
        rw [← ProfileField.ofKey?_eq_some_iff, ProfileField.ofKey?_key] at same
        exact (Option.some.inj same).symm
      · rintro rfl
        rfl
    cases takes : written.takes? value with
    | some slot =>
      obtain ⟨changed, _, same, reads⟩ := ctx.insert_of_takes written takes
      rw [same, reads field]
      by_cases equal : field = written
      · simp [equal, takes]
      · simp [equal, here]
    | none =>
      rw [ctx.insert_of_refuses written takes]
      by_cases equal : field = written
      · simp [put, equal, takes]
      · simp [put, equal, here]

theorem profile_insertAll (ctx : Context) (history : List (String × Value))
    (field : ProfileField) :
    (ctx.insertAll history).profile.get? field =
      history.foldl field.after (ctx.profile.get? field) := by
  induction history generalizing ctx with
  | nil => rfl
  | cons write rest ih =>
    exact (ih (ctx.insert write.1 write.2)).trans
      (congrArg (rest.foldl field.after) (profile_insert ctx write.1 write.2 field))

/-- What a write of a known field should be read back as: the value in the form
of the field if the field takes it, and the value itself if not. -/
def written (profile : Profile) (field : ProfileField) (value : Value) : Option Value :=
  match profile.set field value with
  | .ok changed => changed.get? field
  | .error refused => some refused

theorem written_eq (profile : Profile) (field : ProfileField) (value : Value) :
    written profile field value = (field.takes? value).getD (some value) := by
  unfold written
  cases takes : field.takes? value with
  | some slot =>
    obtain ⟨changed, accepted, reads⟩ := Profile.set_of_takes profile takes
    rw [accepted]
    simpa using reads field
  | none => rw [Profile.set_of_refuses profile takes]; rfl

/-- After any run of writes, a write of a known field is read back as it should
be unless the field refuses the value and holds another one, which the last
earlier write that it took has left there; then that one is read instead. -/
theorem get?_after_last_write (start : Context) (history : List (String × Value))
    (field : ProfileField) (value : Value) :
    let ctx := start.insertAll history
    let slot := history.foldl field.after (start.profile.get? field)
    let answer := (ctx.insert field.key value).get? field.key
    ctx.profile.get? field = slot ∧
    (value.isNull → answer = none) ∧
    (∀ changed, ctx.profile.set field value = .ok changed → answer = changed.get? field) ∧
    (∀ refused, ctx.profile.set field value = .error refused →
      refused = value ∧ answer = slot.or (some value)) ∧
    (answer = written ctx.profile field value ↔
      ¬ ((∃ refused, ctx.profile.set field value = .error refused) ∧
        ∃ earlier, slot = some earlier ∧ earlier ≠ value)) := by
  intro ctx slot answer
  have held : ctx.profile.get? field = slot := profile_insertAll start history field
  have read : answer = match field.takes? value with
      | some slot => slot
      | none => slot.or (some value) := held ▸ ctx.get?_insert_key field value
  refine ⟨held, ?_, ?_, ?_, ?_⟩
  · intro null
    rw [read, ProfileField.takes?, if_pos null]
  · intro changed accepted
    rw [read, Profile.takes_of_set accepted]
  · intro refused rejected
    obtain ⟨refuses, same⟩ := Profile.refuses_of_set rejected
    rw [read, refuses]
    exact ⟨same, rfl⟩
  · -- A value that is taken is read back always, so only refused ones are left.
    rw [written_eq, read]
    cases takes : field.takes? value with
    | some slot' =>
      have accepts : ¬ ∃ refused, ctx.profile.set field value = .error refused := by
        rintro ⟨refused, rejected⟩
        rw [(Profile.refuses_of_set rejected).1] at takes
        cases takes
      simp [accepts]
    | none =>
      have rejected := Profile.set_of_refuses ctx.profile takes
      cases slot with
      | none => simp [rejected]
      | some earlier => simp [rejected]

/-- A field that holds true refuses a text and is still read as true, and is
read as nothing once it is cleared. -/
theorem get?_after_refused_text :
    let ctx := empty.insertAll [("isPregnant", .bool true)]
    ctx.profile.set .isPregnant (.text "maybe") = .error (.text "maybe") ∧
    (ctx.insert "isPregnant" (.text "maybe")).get? "isPregnant" = some (.bool true) ∧
    (ctx.insert "isPregnant" .null).get? "isPregnant" = none := by
  intro ctx
  have rejected : ctx.profile.set .isPregnant (.text "maybe") = .error (.text "maybe") := rfl
  obtain ⟨_, _, _, refused, _⟩ :=
    get?_after_last_write empty [("isPregnant", .bool true)] .isPregnant (.text "maybe")
  obtain ⟨_, cleared, _⟩ :=
    get?_after_last_write empty [("isPregnant", .bool true)] .isPregnant .null
  exact ⟨rejected, (refused _ rejected).2, cleared rfl⟩

/-- A refused value is hidden by what the field took before. -/
theorem get?_hides_refused_value :
    ¬ ∀ (history : List (String × Value)) (field : ProfileField) (value : Value),
      ((empty.insertAll history).insert field.key value).get? field.key =
        written (empty.insertAll history).profile field value := by
  intro readsBack
  have same := readsBack [("isPregnant", .bool true)] .isPregnant (.text "maybe")
  have answered : some (Value.bool true) = some (Value.text "maybe") := same
  cases answered

end Context

end Eligibility
