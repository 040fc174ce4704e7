import Eligibility.Profile

/-!
What the fields of a profile take. A field reads a value as its own type or
refuses it, whatever the profile holds; a write changes no other field.
-/

set_option autoImplicit false

namespace Eligibility

namespace ProfileField

theorem ofKey?_key (field : ProfileField) : ofKey? field.key = some field := by
  cases field <;> decide

theorem ofKey?_eq_some_iff {path : String} {field : ProfileField} :
    ofKey? path = some field ↔ path = field.key := by
  constructor
  · intro found
    unfold ofKey? at found
    have keyed := List.find?_some found
    exact (beq_iff_eq.mp keyed).symm
  · rintro rfl
    exact ofKey?_key field

def read? (value : Value) : ProfileField → Option Value
  | .householdIncome => value.toFloat?.map Value.number
  | .householdSize | .age => (Profile.whole? value).map .int
  | .citizenship | .dateOfBirth | .state | .employmentStatus => value.toText?.map .text
  | .isPregnant | .hasChildren | .hasDisability | .isVeteran => value.toBool?.map .bool

/-- What a write leaves in the field: nothing after null, and the value as the
field reads it otherwise. There is no result where the field refuses the value. -/
def takes? (field : ProfileField) (value : Value) : Option (Option Value) :=
  if value.isNull then some none else (field.read? value).map some

end ProfileField

namespace Profile

variable {profile changed : Profile} {field : ProfileField} {value : Value}

theorem get?_clear (profile : Profile) (field other : ProfileField) :
    (profile.clear field).get? other = if other = field then none else profile.get? other := by
  cases field <;> cases other <;> rfl

theorem get?_of_store? (stored : profile.store? value field = some changed)
    (other : ProfileField) :
    changed.get? other = if other = field then field.read? value else profile.get? other := by
  cases field <;>
    (simp only [store?, Option.map_eq_some_iff] at stored
     obtain ⟨typed, read, rfl⟩ := stored
     cases other <;> simp [get?, ProfileField.read?, read])

theorem store?_eq_none_iff : profile.store? value field = none ↔ field.read? value = none := by
  cases field <;> simp [store?, ProfileField.read?]

theorem set_of_takes (profile : Profile) {slot : Option Value}
    (takes : field.takes? value = some slot) :
    ∃ changed, profile.set field value = .ok changed ∧
      ∀ other, changed.get? other = if other = field then slot else profile.get? other := by
  unfold ProfileField.takes? at takes
  unfold set
  split at takes
  case isTrue null =>
    cases takes
    rw [if_pos null]
    exact ⟨_, rfl, get?_clear profile field⟩
  case isFalse filled =>
    obtain ⟨typed, read, rfl⟩ := Option.map_eq_some_iff.mp takes
    rw [if_neg filled]
    cases stored : profile.store? value field with
    | none => rw [store?_eq_none_iff.mp stored] at read; cases read
    | some changed =>
      refine ⟨changed, rfl, fun other => ?_⟩
      rw [get?_of_store? stored other, read]

theorem set_of_refuses (profile : Profile) (refuses : field.takes? value = none) :
    profile.set field value = .error value := by
  unfold ProfileField.takes? at refuses
  unfold set
  split at refuses
  case isTrue null => cases refuses
  case isFalse filled =>
    rw [if_neg filled, store?_eq_none_iff.mpr (Option.map_eq_none_iff.mp refuses)]

theorem takes_of_set (accepted : profile.set field value = .ok changed) :
    field.takes? value = some (changed.get? field) := by
  cases takes : field.takes? value with
  | some slot =>
    obtain ⟨other, same, reads⟩ := set_of_takes profile takes
    obtain rfl := Except.ok.inj (accepted.symm.trans same)
    rw [reads field, if_pos rfl]
  | none =>
    rw [set_of_refuses profile takes] at accepted
    cases accepted

theorem refuses_of_set {refused : Value} (rejected : profile.set field value = .error refused) :
    field.takes? value = none ∧ refused = value := by
  cases takes : field.takes? value with
  | some slot =>
    obtain ⟨changed, accepted, _⟩ := set_of_takes profile takes
    rw [accepted] at rejected
    cases rejected
  | none =>
    rw [set_of_refuses profile takes] at rejected
    exact ⟨rfl, (Except.error.inj rejected).symm⟩

end Profile

end Eligibility
