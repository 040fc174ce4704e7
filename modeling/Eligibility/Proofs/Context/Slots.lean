import Eligibility.Proofs.Context.Profile
import Eligibility.Proofs.Number.Exact

/-!
Setting a field of a profile in place. A profile is eleven slots, each of the type
of its field. A write reads the value first and may stop there; only then does it
assign, and only the slot of its field.
-/

set_option autoImplicit false

namespace Eligibility

inductive FieldKind where
  | amount
  | whole
  | text
  | flag
  deriving DecidableEq, Repr

namespace FieldKind

def Content : FieldKind → Type
  | .amount => Float
  | .whole => Int64
  | .text => String
  | .flag => Bool

def read? (value : Value) : (kind : FieldKind) → Option kind.Content
  | .amount => value.toFloat?
  | .whole => Profile.whole? value
  | .text => value.toText?
  | .flag => value.toBool?

def toValue : (kind : FieldKind) → kind.Content → Value
  | .amount, x => Value.number x
  | .whole, i => .int i
  | .text, s => .text s
  | .flag, b => .bool b

end FieldKind

def ProfileField.kind : ProfileField → FieldKind
  | .householdIncome => .amount
  | .householdSize | .age => .whole
  | .citizenship | .dateOfBirth | .state | .employmentStatus => .text
  | .isPregnant | .hasChildren | .hasDisability | .isVeteran => .flag

namespace Profile

/-! ## Slots -/

def slot (profile : Profile) : (field : ProfileField) → Option field.kind.Content
  | .householdIncome => profile.householdIncome
  | .householdSize => profile.householdSize
  | .citizenship => profile.citizenship
  | .age => profile.age
  | .dateOfBirth => profile.dateOfBirth
  | .isPregnant => profile.isPregnant
  | .hasChildren => profile.hasChildren
  | .hasDisability => profile.hasDisability
  | .isVeteran => profile.isVeteran
  | .state => profile.state
  | .employmentStatus => profile.employmentStatus

def assign (profile : Profile) :
    (field : ProfileField) → Option field.kind.Content → Profile
  | .householdIncome, income => { profile with householdIncome := income }
  | .householdSize, size => { profile with householdSize := size }
  | .citizenship, s => { profile with citizenship := s }
  | .age, years => { profile with age := years }
  | .dateOfBirth, s => { profile with dateOfBirth := s }
  | .isPregnant, b => { profile with isPregnant := b }
  | .hasChildren, b => { profile with hasChildren := b }
  | .hasDisability, b => { profile with hasDisability := b }
  | .isVeteran, b => { profile with isVeteran := b }
  | .state, s => { profile with state := s }
  | .employmentStatus, s => { profile with employmentStatus := s }

section
variable (profile : Profile) (field : ProfileField)

@[simp]
theorem slot_assign_self (content : Option field.kind.Content) :
    (profile.assign field content).slot field = content := by
  cases field <;> rfl

@[simp]
theorem slot_assign_of_ne {other : ProfileField} (apart : other ≠ field)
    (content : Option field.kind.Content) :
    (profile.assign field content).slot other = profile.slot other := by
  cases field <;> cases other <;> first | rfl | exact absurd rfl apart

theorem get?_eq_slot : profile.get? field = (profile.slot field).map field.kind.toValue := by
  cases field <;> rfl

theorem clear_eq_assign : profile.clear field = profile.assign field none := by
  cases field <;> rfl

theorem store?_eq_assign (value : Value) :
    profile.store? value field =
      (field.kind.read? value).map fun content => profile.assign field (some content) := by
  cases field <;> rfl

theorem set_eq (value : Value) :
    profile.set field value =
      if value.isNull then .ok (profile.assign field none)
      else
        match field.kind.read? value with
        | some content => .ok (profile.assign field (some content))
        | none => .error value := by
  unfold set
  rw [clear_eq_assign, store?_eq_assign]
  cases field.kind.read? value <;> rfl

variable {profile field}

theorem slot_of_set {value : Value} {changed : Profile}
    (accepted : profile.set field value = .ok changed) {other : ProfileField}
    (apart : other ≠ field) : changed.slot other = profile.slot other := by
  rw [set_eq] at accepted
  split at accepted
  case isTrue null =>
    cases accepted
    exact slot_assign_of_ne profile field apart none
  case isFalse filled =>
    split at accepted
    case h_1 content read =>
      cases accepted
      exact slot_assign_of_ne profile field apart (some content)
    case h_2 unread => cases accepted

end

/-! ## Writing in place -/

/-- A run that changes a profile as it goes, and may stop with a value. -/
abbrev Write := ExceptT Value (StateM Profile)

def readOr {α : Type} (value : Value) : Option α → Write α
  | some content => pure content
  | none => throw value

/-- Sets a field in place: each case reads the value, where it may stop, and then
assigns its slot. -/
def write (field : ProfileField) (value : Value) : Write Unit := do
  if value.isNull then
    modify fun profile => profile.clear field
    return
  match field with
  | .householdIncome =>
    let income ← readOr value value.toFloat?
    modify fun profile => { profile with householdIncome := some income }
  | .householdSize =>
    let size ← readOr value (whole? value)
    modify fun profile => { profile with householdSize := some size }
  | .age =>
    let years ← readOr value (whole? value)
    modify fun profile => { profile with age := some years }
  | .isPregnant =>
    let b ← readOr value value.toBool?
    modify fun profile => { profile with isPregnant := some b }
  | .hasChildren =>
    let b ← readOr value value.toBool?
    modify fun profile => { profile with hasChildren := some b }
  | .hasDisability =>
    let b ← readOr value value.toBool?
    modify fun profile => { profile with hasDisability := some b }
  | .isVeteran =>
    let b ← readOr value value.toBool?
    modify fun profile => { profile with isVeteran := some b }
  | .citizenship =>
    let s ← readOr value value.toText?
    modify fun profile => { profile with citizenship := some s }
  | .dateOfBirth =>
    let s ← readOr value value.toText?
    modify fun profile => { profile with dateOfBirth := some s }
  | .state =>
    let s ← readOr value value.toText?
    modify fun profile => { profile with state := some s }
  | .employmentStatus =>
    let s ← readOr value value.toText?
    modify fun profile => { profile with employmentStatus := some s }

section
variable (profile : Profile) (field : ProfileField) (value : Value)

theorem write_eq (filled : value.isNull = false) :
    write field value =
      readOr value (field.kind.read? value) >>= fun content =>
        modify fun profile => profile.assign field (some content) := by
  unfold write
  rw [filled]
  cases field <;> rfl

/-- Where a write stops, it has not assigned yet. -/
theorem run_write :
    (write field value).run.run profile =
      match profile.set field value with
      | .ok changed => (.ok (), changed)
      | .error refused => (.error refused, profile) := by
  rw [set_eq]
  cases null : value.isNull with
  | true =>
    rw [if_pos rfl, ← clear_eq_assign]
    unfold write
    rw [null]
    rfl
  | false =>
    rw [if_neg Bool.false_ne_true, write_eq field value null]
    cases field.kind.read? value <;> rfl

/-! ## All or nothing -/

def Sets (answer : Option Value) : Prop :=
  ∃ changed, profile.set field value = .ok changed ∧ changed.get? field = answer

/-- Apart from null, the field takes the values of one kind, as they are, and no others. -/
def TakesExactly (own : Value → Prop) : Prop :=
  ∀ value, value ≠ .null →
    (own value → profile.Sets field value (some value)) ∧
    (¬own value → profile.set field value = .error value)

end

section
variable {profile : Profile} {field : ProfileField} {value : Value}

theorem sets_null : profile.Sets field .null none := by
  refine ⟨profile.assign field none, set_eq profile field .null, ?_⟩
  rw [get?_eq_slot, slot_assign_self]
  rfl

theorem sets_of_read? {answer : Value} (filled : value.isNull = false)
    (reads : (field.kind.read? value).map field.kind.toValue = some answer) :
    profile.Sets field value (some answer) := by
  obtain ⟨content, read, shown⟩ := Option.map_eq_some_iff.mp reads
  refine ⟨profile.assign field (some content), ?_, ?_⟩
  · rw [set_eq, filled, read]
    rfl
  · rw [get?_eq_slot, slot_assign_self, Option.map_some, shown]

theorem takesExactly_of_read? {own : Value → Prop}
    (keeps : ∀ value, own value → (field.kind.read? value).map field.kind.toValue = some value)
    (refuses : ∀ value, ¬own value → field.kind.read? value = none) :
    profile.TakesExactly field own := by
  intro value notNull
  have filled : value.isNull = false := by
    cases value <;> first | rfl | exact absurd rfl notNull
  constructor
  · exact fun fits => sets_of_read? filled (keeps value fits)
  · intro other
    rw [set_eq, filled, refuses value other]
    rfl

theorem takesExactly_flag (flag : field.kind = .flag) :
    profile.TakesExactly field fun value => ∃ b, value = .bool b := by
  refine takesExactly_of_read? ?_ ?_ <;> rw [flag]
  · rintro _ ⟨b, rfl⟩
    rfl
  · intro value other
    cases value <;> first | rfl | exact absurd ⟨_, rfl⟩ other

theorem takesExactly_text (text : field.kind = .text) :
    profile.TakesExactly field fun value => ∃ s, value = .text s := by
  refine takesExactly_of_read? ?_ ?_ <;> rw [text]
  · rintro _ ⟨s, rfl⟩
    rfl
  · intro value other
    cases value <;> first | rfl | exact absurd ⟨_, rfl⟩ other

theorem toWord?_wordToFloat {i : Int64} (small : i.toInt.natAbs < 9 * 10 ^ 15) :
    Value.toWord? (Value.wordToFloat i) = some i := by
  have exact : Number.toInt? (Value.wordToFloat i) = some i.toInt :=
    Number.toInt?_ofInt (Nat.lt_trans small (by decide))
  have below : i.toInt.natAbs < Value.wholeBound := small
  simp only [Value.toWord?, exact, Option.bind_eq_bind, Option.bind_some, if_pos below,
    Option.pure_def, Int64.ofInt_toInt]

theorem sets_int {i : Int64} (numeric : field.kind = .whole ∨ field.kind = .amount)
    (small : i.toInt.natAbs < 9 * 10 ^ 15) : profile.Sets field (.int i) (some (.int i)) := by
  have word := toWord?_wordToFloat small
  refine sets_of_read? rfl ?_
  -- A whole number is stored as the word, an amount as the double that shows it.
  rcases numeric with whole | amount
  · rw [whole]
    change Option.map _ (Value.toWord? (Value.wordToFloat i)) = _
    rw [word]
    rfl
  · rw [amount]
    change some (Value.number (Value.wordToFloat i)) = _
    rw [Value.number, word]

end

/-- Setting a field is all or nothing. Either the value comes back and the profile
is as it was, also where the field is set in place, or no slot but the field's has
changed. Null empties any slot; a flag or a text takes just its own kind of value
and keeps it; and an exact whole number is kept wherever numbers are taken. -/
theorem set_is_all_or_nothing (profile : Profile) (field : ProfileField) :
    (∀ value,
      profile.set field value = .error value ∧
        (write field value).run.run profile = (.error value, profile) ∨
      ∃ changed, profile.set field value = .ok changed ∧
        (write field value).run.run profile = (.ok (), changed) ∧
        ∀ other, other ≠ field → changed.slot other = profile.slot other) ∧
    profile.Sets field .null none ∧
    (field.kind = .flag → profile.TakesExactly field fun value => ∃ b, value = .bool b) ∧
    (field.kind = .text → profile.TakesExactly field fun value => ∃ s, value = .text s) ∧
    (field.kind = .whole ∨ field.kind = .amount → ∀ i : Int64, i.toInt.natAbs < 9 * 10 ^ 15 →
      profile.Sets field (.int i) (some (.int i))) := by
  refine ⟨fun value => ?_, sets_null, takesExactly_flag, takesExactly_text,
    fun numeric i small => sets_int numeric small⟩
  have inPlace := run_write profile field value
  cases outcome : profile.set field value with
  | error refused =>
    obtain ⟨_, rfl⟩ := refuses_of_set outcome
    rw [outcome] at inPlace
    exact .inl ⟨rfl, inPlace⟩
  | ok changed =>
    rw [outcome] at inPlace
    exact .inr ⟨changed, rfl, inPlace, fun other apart => slot_of_set outcome apart⟩

end Profile

end Eligibility
