import Mathlib.Logic.Function.Conjugate
import Eligibility.Json.Decoder
import Eligibility.Proofs.Json.Ordered

/-!
What decoders give. A record read from an object is the work of its slots, each
on its own field, in whatever order the fields stand. A record that is written
slot by slot is therefore read back, provided that what is left out leaves the
blank record as it is.
-/

set_option autoImplicit false

namespace Eligibility

/-! ## What a reading gives -/

section
variable {ε α β : Type} {first : α → Prop} {second : β → Prop}

def Gives (wanted : α → Prop) (reading : Except ε α) : Prop :=
  ∀ a, reading = .ok a → wanted a

theorem Gives.pure {a : α} (holds : first a) : Gives first (pure a : Except ε α) := by
  rintro _ ⟨⟩
  exact holds

theorem Gives.error (fault : ε) : Gives first (.error fault) := nofun

theorem Gives.bind {reading : Except ε α} {next : α → Except ε β} (gives : Gives first reading)
    (after : ∀ a, first a → Gives second (next a)) : Gives second (reading >>= next) := by
  intro b given
  cases reading with
  | error fault => cases given
  | ok a => exact after a (gives a rfl) b given

theorem Gives.any (reading : Except ε α) : Gives (fun _ => True) reading := fun _ _ => trivial

theorem Gives.mapM {next : α → Except ε β} (each : ∀ a, Gives second (next a)) :
    ∀ items : List α, Gives (fun results => ∀ b ∈ results, second b) (items.mapM next)
  | [] => .pure nofun
  | item :: rest => by
    rw [List.mapM_cons]
    refine (each item).bind fun b holds => (Gives.mapM each rest).bind fun results others => ?_
    exact .pure (List.forall_mem_cons.mpr ⟨holds, others⟩)

end

namespace Json

theorem decode_eq_ok {α : Type} {decoder : Document → Except Fault α} {json : Json} {a : α} :
    json.decode decoder = .ok a ↔ decoder json.toDocument = .ok a := by
  unfold decode
  split <;> simp_all [wrongShape]

theorem Document.toList_gives {α : Type} {decode : Document → Except Fault α} {wanted : α → Prop}
    (each : ∀ document, Gives wanted (decode document)) (document : Document) :
    Gives (fun items => ∀ a ∈ items, wanted a) (toList decode document) := by
  cases document with
  | array items => exact Gives.mapM each items
  | _ => exact .error _

mutual

theorem skip_toDocument : ∀ json : Json, json.toDocument.skip = .ok ()
  | .null | .bool _ | .number _ | .text _ => rfl
  | .array items => skipItems_toDocument items
  | .object fields => skipFields_toDocument fields

theorem skipItems_toDocument : ∀ items : List Json,
    Document.skipItems (itemsToDocument items) = .ok ()
  | [] => rfl
  | item :: rest => by
    rw [itemsToDocument, Document.skipItems, skip_toDocument item]
    exact skipItems_toDocument rest

theorem skipFields_toDocument : ∀ fields : List (String × Json),
    Document.skipFields (fieldsToDocument fields) = .ok ()
  | [] => rfl
  | (_, value) :: rest => by
    rw [fieldsToDocument, Document.skipFields, skip_toDocument value]
    exact skipFields_toDocument rest

end

/-! ## Records from documents -/

namespace Slot

variable {ρ α : Type}

inductive Makes (slot : Slot ρ) (change : ρ → ρ) : Prop where
  | filled {document : Document} : slot.fill document = .ok change → Makes slot change
  | absent : slot.absent = .ok change → Makes slot change

def Keeps (holds : ρ → Prop) (slot : Slot ρ) : Prop :=
  ∀ change, slot.Makes change → ∀ r, holds r → holds (change r)

def Brings (holds : ρ → Prop) (slot : Slot ρ) : Prop :=
  ∀ change, slot.Makes change → ∀ r, holds (change r)

theorem Brings.keeps {holds : ρ → Prop} {slot : Slot ρ} (brings : slot.Brings holds) :
    slot.Keeps holds := fun change makes r _ => brings change makes r

section
variable {key : String} {decode : Document → Except Fault α} {set : α → ρ → ρ} {holds : ρ → Prop}

theorem makes_required {change : ρ → ρ} (makes : (required key decode set).Makes change) :
    ∃ document a, decode document = .ok a ∧ change = set a := by
  cases makes with
  | absent refused => cases refused
  | @filled document fills =>
    change (decode document).map set = _ at fills
    cases decoded : decode document with
    | error fault => rw [decoded] at fills; cases fills
    | ok a => rw [decoded] at fills; cases fills; exact ⟨document, a, decoded, rfl⟩

theorem makes_defaulted {change : ρ → ρ} (makes : (defaulted key decode set).Makes change) :
    change = id ∨ ∃ document a, decode document = .ok a ∧ change = set a := by
  cases makes with
  | absent left => cases left; exact .inl rfl
  | filled fills =>
    exact .inr (makes_required (.filled fills : (required key decode set).Makes change))

theorem brings_required
    (sets : ∀ document, Gives (fun a => ∀ r, holds (set a r)) (decode document)) :
    (required key decode set).Brings holds := by
  intro change makes r
  obtain ⟨document, a, decoded, rfl⟩ := makes_required makes
  exact sets document a decoded r

theorem keeps_required
    (sets : ∀ document, Gives (fun a => ∀ r, holds r → holds (set a r)) (decode document)) :
    (required key decode set).Keeps holds := by
  intro change makes r before
  obtain ⟨document, a, decoded, rfl⟩ := makes_required makes
  exact sets document a decoded r before

theorem keeps_defaulted
    (sets : ∀ document, Gives (fun a => ∀ r, holds r → holds (set a r)) (decode document)) :
    (defaulted key decode set).Keeps holds := by
  intro change makes r before
  obtain rfl | ⟨document, a, decoded, rfl⟩ := makes_defaulted makes
  · exact before
  · exact sets document a decoded r before

end

/-- `holds` is true already, or a slot that is still to come will make it so. -/
def Awaits (holds : ρ → Prop) (slots : List (Slot ρ)) (taken : List String) (r : ρ) : Prop :=
  holds r ∨ ∃ slot ∈ slots, slot.Brings holds ∧ slot.key ∉ taken

theorem find?_key {slots : List (Slot ρ)} (distinct : (slots.map Slot.key).Nodup) {slot : Slot ρ}
    (member : slot ∈ slots) : slots.find? (·.key = slot.key) = some slot := by
  induction slots with
  | nil => cases member
  | cons first rest ih =>
    rw [List.map_cons, List.nodup_cons] at distinct
    rcases List.mem_cons.mp member with rfl | later
    · simp
    · have different : first.key ≠ slot.key := fun same =>
        distinct.1 (same ▸ List.mem_map_of_mem later)
      rw [List.find?_cons_of_neg (by simpa using different)]
      exact ih distinct.2 later

section
variable {holds : ρ → Prop} {slots : List (Slot ρ)}

theorem Awaits.change {slot : Slot ρ} {taken : List String} {r : ρ} {change : ρ → ρ}
    (awaits : Awaits holds (slot :: slots) taken r) (keeps : slot.Keeps holds)
    (makes : slot.Makes change) : Awaits holds slots taken (change r) := by
  rcases awaits with already | ⟨awaited, among, brings, open_⟩
  · exact .inl (keeps change makes r already)
  · rcases List.mem_cons.mp among with rfl | later
    · exact .inl (brings change makes r)
    · exact .inr ⟨awaited, later, brings, open_⟩

theorem fillFields_gives (distinct : (slots.map Slot.key).Nodup)
    (keeps : ∀ slot ∈ slots, slot.Keeps holds) :
    ∀ (fields : List (Document × Document)) (taken : List String) (r : ρ),
      Awaits holds slots taken r →
      Gives (fun filled => Awaits holds slots filled.1 filled.2) (fillFields slots fields taken r)
  | [], _, _, awaits => .pure awaits
  | (key, document) :: rest, taken, r, awaits => by
    rw [fillFields]
    refine (Gives.any _).bind fun name _ => ?_
    cases found : slots.find? (·.key = name) with
    | none =>
      exact (Gives.any _).bind fun _ _ => fillFields_gives distinct keeps rest taken r awaits
    | some slot =>
      have member := List.mem_of_find?_eq_some found
      have named : slot.key = name := by simpa using List.find?_some found
      dsimp only
      split
      · exact .error _
      · have fills : Gives slot.Makes (slot.fill document) := fun _ fills => .filled fills
        refine fills.bind fun change makes => ?_
        refine fillFields_gives distinct keeps rest (name :: taken) (change r) ?_
        rcases awaits with already | ⟨awaited, among, brings, open_⟩
        · exact .inl (keeps slot member change makes r already)
        · by_cases same : awaited.key = name
          · -- Keys are distinct, so this is the slot that was awaited.
            have found' := find?_key distinct among
            rw [same, found] at found'
            cases found'
            exact .inl (brings change makes r)
          · exact .inr ⟨awaited, among, brings, by simp [same, open_]⟩

theorem fillAbsent_gives (taken : List String) : ∀ (slots : List (Slot ρ)) (r : ρ),
    (∀ slot ∈ slots, slot.Keeps holds) → Awaits holds slots taken r →
    Gives holds (fillAbsent taken slots r)
  | [], r, _, awaits => .pure (awaits.elim id (by rintro ⟨_, ⟨⟩, _⟩))
  | slot :: rest, r, keeps, awaits => by
    obtain ⟨first, others⟩ := List.forall_mem_cons.mp keeps
    rw [fillAbsent]
    split
    case isTrue present =>
      refine fillAbsent_gives taken rest r others ?_
      rcases awaits with already | ⟨awaited, among, brings, open_⟩
      · exact .inl already
      · rcases List.mem_cons.mp among with rfl | later
        · exact absurd present open_
        · exact .inr ⟨awaited, later, brings, open_⟩
    case isFalse =>
      have leaves : Gives slot.Makes slot.absent := fun _ left => .absent left
      exact leaves.bind fun change makes =>
        fillAbsent_gives taken rest (change r) others (awaits.change first makes)

theorem fillItems_gives : ∀ (slots : List (Slot ρ)) (items : List Document) (r : ρ),
    (∀ slot ∈ slots, slot.Keeps holds) → Awaits holds slots [] r →
    Gives holds (fillItems slots items r)
  | slot :: slots, document :: rest, r, keeps, awaits => by
    obtain ⟨first, others⟩ := List.forall_mem_cons.mp keeps
    rw [fillItems]
    have fills : Gives slot.Makes (slot.fill document) := fun _ fills => .filled fills
    exact fills.bind fun change makes =>
      fillItems_gives slots rest (change r) others (awaits.change first makes)
  | [], [], r, keeps, awaits => fillAbsent_gives [] [] r keeps awaits
  | slot :: slots, [], r, keeps, awaits => fillAbsent_gives [] (slot :: slots) r keeps awaits
  | [], document :: rest, r, _, _ => by cases document <;> exact .error _

/-- What every slot keeps holds of the record, if it holds of the blank one or
some slot brings it about. -/
theorem toRecord_gives {blank : ρ} (distinct : (slots.map Slot.key).Nodup)
    (keeps : ∀ slot ∈ slots, slot.Keeps holds)
    (start : holds blank ∨ ∃ slot ∈ slots, slot.Brings holds) (document : Document) :
    Gives holds (document.toRecord blank slots) := by
  have awaits : Awaits holds slots [] blank :=
    start.imp_right fun ⟨slot, member, brings⟩ => ⟨slot, member, brings, nofun⟩
  cases document with
  | object fields =>
    exact (fillFields_gives distinct keeps fields [] blank awaits).bind fun filled later =>
      fillAbsent_gives filled.1 slots filled.2 keeps later
  | array items => exact fillItems_gives slots items blank keeps awaits
  | _ => exact .error _

end

/-! ## Records from objects -/

def read (slot : Slot ρ) : Option Json → Except Fault (ρ → ρ)
  | some json => slot.fill json.toDocument
  | none => slot.absent

def complete (changes : List (Slot ρ × (ρ → ρ))) (taken : List String) (r : ρ) : ρ :=
  changes.foldl (fun r change => if change.1.key ∈ taken then r else change.2 r) r

theorem complete_cons (change : Slot ρ × (ρ → ρ)) (rest : List (Slot ρ × (ρ → ρ)))
    (taken : List String) (r : ρ) :
    complete (change :: rest) taken r =
      complete rest taken (if change.1.key ∈ taken then r else change.2 r) := rfl

theorem complete_other {key : String} {changes : List (Slot ρ × (ρ → ρ))}
    (other : ∀ change ∈ changes, change.1.key ≠ key) (taken : List String) (r : ρ) :
    complete changes (key :: taken) r = complete changes taken r := by
  induction changes generalizing r with
  | nil => rfl
  | cons change rest ih =>
    obtain ⟨first, others⟩ := List.forall_mem_cons.mp other
    rw [complete_cons, complete_cons, ih others]
    simp [first]

/-- The changes commute, so any of them may be made before all others. -/
theorem complete_take {changes : List (Slot ρ × (ρ → ρ))}
    (distinct : (changes.map (·.1.key)).Nodup)
    (apart : changes.Pairwise fun first second => Function.Commute first.2 second.2)
    {change : Slot ρ × (ρ → ρ)} (member : change ∈ changes) {taken : List String}
    (fresh : change.1.key ∉ taken) (r : ρ) :
    complete changes (change.1.key :: taken) (change.2 r) = complete changes taken r := by
  induction changes generalizing r with
  | nil => cases member
  | cons first rest ih =>
    rw [List.map_cons, List.nodup_cons] at distinct
    rw [List.pairwise_cons] at apart
    rw [complete_cons, complete_cons]
    rcases List.mem_cons.mp member with rfl | later
    · have other : ∀ later ∈ rest, later.1.key ≠ change.1.key := fun later among same =>
        distinct.1 (same ▸ List.mem_map_of_mem (f := (·.1.key)) among)
      rw [if_pos List.mem_cons_self, if_neg fresh, complete_other other]
    · have different : first.1.key ≠ change.1.key := fun same =>
        distinct.1 (same ▸ List.mem_map_of_mem (f := (·.1.key)) later)
      by_cases present : first.1.key ∈ taken
      · rw [if_pos (List.mem_cons_of_mem _ present), if_pos present]
        exact ih distinct.2 apart.2 later r
      · rw [if_neg (by simp [different, present]), if_neg present, apart.1 change later r]
        exact ih distinct.2 apart.2 later (first.2 r)

theorem fillAbsent_eq_complete {taken : List String} {changes : List (Slot ρ × (ρ → ρ))}
    (absent : ∀ change ∈ changes, change.1.key ∉ taken → change.1.absent = .ok change.2) (r : ρ) :
    fillAbsent taken (changes.map Prod.fst) r = .ok (complete changes taken r) := by
  induction changes generalizing r with
  | nil => rfl
  | cons change rest ih =>
    obtain ⟨first, others⟩ := List.forall_mem_cons.mp absent
    rw [List.map_cons, fillAbsent, complete_cons]
    split
    · exact ih others r
    case isFalse fresh =>
      rw [first fresh]
      exact ih others (change.2 r)

theorem fillFields_known {slots : List (Slot ρ)} {slot : Slot ρ} {key : String}
    {taken : List String} (found : slots.find? (·.key = key) = some slot) (fresh : key ∉ taken)
    {document : Document} {change : ρ → ρ} (fills : slot.fill document = .ok change)
    (rest : List (Document × Document)) (r : ρ) :
    fillFields slots ((.text key, document) :: rest) taken r =
      fillFields slots rest (key :: taken) (change r) := by
  rw [fillFields, Document.toKey]
  dsimp only [bind, Except.bind]
  rw [found]
  dsimp only
  rw [if_neg fresh, fills]

theorem fillFields_unknown {slots : List (Slot ρ)} {key : String}
    (passed : slots.find? (·.key = key) = none) (json : Json) (rest : List (Document × Document))
    (taken : List String) (r : ρ) :
    fillFields slots ((.text key, json.toDocument) :: rest) taken r =
      fillFields slots rest taken r := by
  rw [fillFields, Document.toKey]
  dsimp only [bind, Except.bind]
  rw [passed]
  dsimp only
  rw [skip_toDocument]

theorem fillFields_eq_complete {changes : List (Slot ρ × (ρ → ρ))}
    (distinct : (changes.map (·.1.key)).Nodup)
    (apart : changes.Pairwise fun first second => Function.Commute first.2 second.2) :
    ∀ {fields : List (String × Json)} {taken : List String},
      (fields.map Prod.fst).Nodup → (∀ field ∈ fields, field.1 ∉ taken) →
      (∀ change ∈ changes, change.1.key ∉ taken →
        change.1.read (Keyed.find? change.1.key fields) = .ok change.2) →
      ∀ r, (fillFields (changes.map Prod.fst) (fieldsToDocument fields) taken r >>= fun filled =>
        fillAbsent filled.1 (changes.map Prod.fst) filled.2) = .ok (complete changes taken r)
  | [], taken, _, _, reads, r => fillAbsent_eq_complete reads r
  | (key, json) :: rest, taken, unique, fresh, reads, r => by
    rw [List.map_cons, List.nodup_cons] at unique
    obtain ⟨here, later⟩ := List.forall_mem_cons.mp fresh
    have others : ∀ change ∈ changes, change.1.key ≠ key → change.1.key ∉ taken →
        change.1.read (Keyed.find? change.1.key rest) = .ok change.2 := by
      intro change member different open_
      have reading := reads change member open_
      rwa [Keyed.find?, if_neg (Ne.symm different)] at reading
    change (fillFields _ ((.text key, json.toDocument) :: fieldsToDocument rest) taken r >>= _) = _
    -- Either one slot takes the field, and its change may as well come before
    -- all others; or no slot has the key, and the field is passed over.
    by_cases known : ∃ change ∈ changes, change.1.key = key
    · obtain ⟨change, member, rfl⟩ := known
      have found : (changes.map Prod.fst).find? (·.key = change.1.key) = some change.1 :=
        find?_key (by rwa [List.map_map]) (List.mem_map_of_mem member)
      have fills : change.1.fill json.toDocument = .ok change.2 := by
        have reading := reads change member here
        rwa [Keyed.find?, if_pos rfl] at reading
      have fresh' : ∀ field ∈ rest, field.1 ∉ change.1.key :: taken := fun field among => by
        have different : field.1 ≠ change.1.key := fun same =>
          unique.1 (List.mem_map.mpr ⟨field, among, same⟩)
        simp [different, later field among]
      rw [fillFields_known found here fills, ← complete_take distinct apart member here]
      refine fillFields_eq_complete distinct apart unique.2 fresh' (fun other among open_ => ?_) _
      simp only [List.mem_cons, not_or] at open_
      exact others other among open_.1 open_.2
    · have unknown : ∀ change ∈ changes, change.1.key ≠ key := fun change member same =>
        known ⟨change, member, same⟩
      have passed : (changes.map Prod.fst).find? (·.key = key) = none := by
        simpa using fun slot change member => unknown (slot, change) member
      rw [fillFields_unknown passed]
      exact fillFields_eq_complete distinct apart unique.2 later (fun other among open_ =>
        others other among (unknown other among) open_) r

theorem toRecord_object {blank : ρ} {changes : List (Slot ρ × (ρ → ρ))}
    (distinct : (changes.map (·.1.key)).Nodup)
    (apart : changes.Pairwise fun first second => Function.Commute first.2 second.2)
    {fields : List (String × Json)} (unique : (fields.map Prod.fst).Nodup)
    (reads : ∀ change ∈ changes,
      change.1.read (Keyed.find? change.1.key fields) = .ok change.2) :
    (Json.object fields).toDocument.toRecord blank (changes.map Prod.fst) =
      .ok (changes.foldl (fun r change => change.2 r) blank) := by
  have fresh : ∀ field ∈ fields, field.1 ∉ ([] : List String) := fun _ _ => nofun
  have read := fillFields_eq_complete distinct apart unique fresh
    (fun change member _ => reads change member) blank
  simp only [complete, List.not_mem_nil, if_false] at read
  exact read

end Slot

/-! ## Records that are written and read back -/

/-- Written as `document`, `a` is read back from what that stands for. -/
def Survives {α : Type} (decode : Document → Except Fault α) (document : Document) (a : α) : Prop :=
  ∃ json, document.toJson = .ok json ∧ decode json.toDocument = .ok a

theorem Survives.map {α β : Type} {decode : Document → Except Fault α} {document : Document} {a : α}
    (survives : Survives decode document a) (f : α → β) :
    Survives (fun document => (decode document).map f) document (f a) := by
  obtain ⟨json, written, read⟩ := survives
  exact ⟨json, written, congrArg (Except.map f) read⟩

theorem survives_ofList {α : Type} {decode : Document → Except Fault α} {encode : α → Document} :
    ∀ {items : List α}, (∀ a ∈ items, Survives decode (encode a) a) →
      Survives (Document.toList decode) (.ofList encode items) items := by
  suffices ∀ items : List α, (∀ a ∈ items, Survives decode (encode a) a) → ∃ jsons,
      Document.itemsToJson (items.map encode) = .ok jsons ∧
      (itemsToDocument jsons).mapM decode = .ok items by
    intro items each
    obtain ⟨jsons, written, read⟩ := this items each
    refine ⟨.array jsons, ?_, read⟩
    simp only [Document.ofList, Document.toJson, written]
    rfl
  intro items
  induction items with
  | nil => exact fun _ => ⟨[], rfl, rfl⟩
  | cons a rest ih =>
    intro each
    obtain ⟨first, others⟩ := List.forall_mem_cons.mp each
    obtain ⟨json, written, read⟩ := first
    obtain ⟨jsons, writtenRest, readRest⟩ := ih others
    refine ⟨json :: jsons, ?_, ?_⟩
    · rw [List.map_cons, Document.itemsToJson, written, writtenRest]
      rfl
    · rw [itemsToDocument, List.mapM_cons, read, readRest]
      rfl

/-- What one slot of a record is written as, if it is written, and how it is
copied into another record. -/
structure Entry (ρ : Type) where
  slot : Slot ρ
  written : Option Document
  copy : ρ → ρ

namespace Entry

variable {ρ : Type}

theorem commute_iff {f g : ρ → ρ} : Function.Commute f g ↔ ∀ r, f (g r) = g (f r) :=
  Iff.rfl

def field? (entry : Entry ρ) : Option (String × Document) :=
  entry.written.map fun document => (entry.slot.key, document)

def change (entry : Entry ρ) : Slot ρ × (ρ → ρ) :=
  (entry.slot, if entry.written.isSome then entry.copy else id)

/-- The entry is read back, or left out where the blank record has it. -/
inductive Restored (blank : ρ) (entry : Entry ρ) : Prop where
  | written {document : Document} : entry.written = some document →
      Survives entry.slot.fill document entry.copy → Restored blank entry
  | left : entry.written = none → entry.slot.absent = .ok id → entry.copy blank = blank →
      Restored blank entry

def ofSlot (slot : Slot ρ) (part : Option Document × (ρ → ρ)) : Entry ρ := ⟨slot, part.1, part.2⟩

section
variable {α : Type} {key : String} {decode : Document → Except Fault α} {encode : α → Document}
  {set : α → ρ → ρ} {blank : ρ}

theorem restored_required {document : Document} {a : α} (survives : Survives decode document a) :
    Restored blank (ofSlot (.required key decode set) (some document, set a)) :=
  .written rfl (survives.map set)

theorem restored_defaulted {document : Document} {a : α} (survives : Survives decode document a) :
    Restored blank (ofSlot (.defaulted key decode set) (some document, set a)) :=
  .written rfl (survives.map set)

theorem restored_option {decode : Document → Except Fault (Option α)} {set : Option α → ρ → ρ}
    (survives : ∀ a, Survives decode (encode a) (some a)) (blanked : set none blank = blank)
    (a? : Option α) :
    Restored blank (ofSlot (.defaulted key decode set) (a?.map encode, set a?)) := by
  cases a? with
  | none => exact .left rfl rfl blanked
  | some a => exact .written rfl ((survives a).map set)

theorem restored_list {set : List α → ρ → ρ} {items : List α}
    (survives : ∀ a ∈ items, Survives decode (encode a) a) (blanked : set [] blank = blank) :
    Restored blank (ofSlot (.defaulted key (Document.toList decode) set)
      (if items.isEmpty then none else some (.ofList encode items), set items)) := by
  cases items with
  | nil => exact .left rfl rfl blanked
  | cons a rest => exact .written rfl ((survives_ofList survives).map set)

end

def fields (entries : List (Entry ρ)) : List (String × Document) := entries.filterMap field?

theorem fieldsToJson_fields {blank : ρ} : ∀ {entries : List (Entry ρ)},
    (entries.map (·.slot.key)).Nodup → (∀ entry ∈ entries, entry.Restored blank) →
    ∃ values, Document.fieldsToJson
        ((fields entries).map fun field => (.text field.1, field.2)) = .ok values ∧
      (values.map Prod.fst).Sublist (entries.map (·.slot.key)) ∧
      ∀ entry ∈ entries,
        entry.slot.read (Keyed.find? entry.slot.key values) = .ok entry.change.2
  | [], _, _ => ⟨[], rfl, .slnil, nofun⟩
  | entry :: rest, distinct, restored => by
    rw [List.map_cons, List.nodup_cons] at distinct
    obtain ⟨first, others⟩ := List.forall_mem_cons.mp restored
    obtain ⟨values, written, keys, reads⟩ := fieldsToJson_fields distinct.2 others
    cases first with
    | left out absent _ =>
      -- No later slot has this key either.
      have missing : Keyed.find? entry.slot.key values = none :=
        Keyed.find?_eq_none_iff.mpr fun member => distinct.1 (keys.subset member)
      refine ⟨values, ?_, keys.cons _, List.forall_mem_cons.mpr ⟨?_, reads⟩⟩
      · rw [fields, List.filterMap_cons_none (by simp [field?, out])]
        exact written
      · rw [missing]
        simpa [Slot.read, change, out] using absent
    | @written document held survives =>
      obtain ⟨json, writes, fills⟩ := survives
      refine ⟨(entry.slot.key, json) :: values, ?_, keys.cons_cons _,
        List.forall_mem_cons.mpr ⟨?_, fun other member => ?_⟩⟩
      · rw [fields, List.filterMap_cons_some (by simp [field?, held]; rfl)]
        rw [fields] at written
        simp only [List.map_cons, Document.fieldsToJson, Document.toKey, writes, written]
        rfl
      · simpa [Keyed.find?, Slot.read, change, held] using fills
      · have different : entry.slot.key ≠ other.slot.key := fun same =>
          distinct.1 (same ▸ List.mem_map_of_mem (f := (·.slot.key)) member)
        rw [Keyed.find?, if_neg different]
        exact reads other member

/-- What is left out might as well be copied, since the blank record has it. -/
theorem foldl_change {blank : ρ} {entries : List (Entry ρ)}
    (apart : entries.Pairwise fun first second => Function.Commute first.copy second.copy)
    (restored : ∀ entry ∈ entries, entry.Restored blank) :
    (entries.map change).foldl (fun r change => change.2 r) blank =
      entries.foldl (fun r entry => entry.copy r) blank := by
  -- The record is no longer blank after the first copy, but a copy that left the
  -- blank record as it is still does nothing, since copies commute.
  suffices ∀ (entries : List (Entry ρ)) (r : ρ),
      entries.Pairwise (fun first second => Function.Commute first.copy second.copy) →
      (∀ entry ∈ entries, entry.written = none → entry.copy r = r) →
      (entries.map change).foldl (fun r change => change.2 r) r =
        entries.foldl (fun r entry => entry.copy r) r by
    refine this entries blank apart fun entry member out => ?_
    cases restored entry member with
    | written held _ => rw [held] at out; cases out
    | left _ _ same => exact same
  intro entries
  induction entries with
  | nil => exact fun _ _ _ => rfl
  | cons entry rest ih =>
    intro r apart unchanged
    rw [List.pairwise_cons] at apart
    obtain ⟨first, others⟩ := List.forall_mem_cons.mp unchanged
    have same : entry.change.2 r = entry.copy r := by
      cases held : entry.written with
      | none => simp [change, held, first held]
      | some document => simp [change, held]
    rw [List.map_cons, List.foldl_cons, List.foldl_cons, same]
    refine ih (entry.copy r) apart.2 fun later member out => ?_
    rw [← apart.1 later member r, others later member out]

/-- The entries make up the record `r`: each goes its own way, and together they
copy all of it. -/
structure MakeUp (blank r : ρ) (entries : List (Entry ρ)) : Prop where
  distinct : (entries.map (·.slot.key)).Nodup
  apart : entries.Pairwise fun first second => Function.Commute first.copy second.copy
  whole : entries.foldl (fun r entry => entry.copy r) blank = r
  restored : ∀ entry ∈ entries, entry.Restored blank

theorem MakeUp.survives {blank r : ρ} {entries : List (Entry ρ)} (made : MakeUp blank r entries) :
    Survives (·.toRecord blank (entries.map Entry.slot)) (.ofFields (fields entries)) r := by
  obtain ⟨distinct, apart, whole, restored⟩ := made
  obtain ⟨values, written, keys, reads⟩ := fieldsToJson_fields distinct restored
  have unique : (values.map Prod.fst).Nodup := keys.nodup distinct
  refine ⟨.ofFields values, ?_, ?_⟩
  · rw [Document.ofFields, Document.toJson, written]
    rfl
  · have apart' : (entries.map change).Pairwise
        fun first second => Function.Commute first.2 second.2 := by
      refine List.pairwise_map.mpr (apart.imp fun {first second} commute => ?_)
      unfold change
      split <;> split
      · exact commute
      · exact .id_right
      · exact .id_left
      · exact .id_left
    have unique' : ((Keyed.ofList values).map Prod.fst).Nodup :=
      (Keyed.ascending_ofList values).nodup
    -- The JSON value has its fields in ascending order, but each slot still finds
    -- its own.
    have reads' : ∀ step ∈ entries.map change,
        step.1.read (Keyed.find? step.1.key (Keyed.ofList values)) = .ok step.2 := by
      refine List.forall_mem_map.mpr fun entry member => ?_
      rw [Keyed.find?_ofList unique]
      exact reads entry member
    have distinct' : ((entries.map change).map (·.1.key)).Nodup := by rwa [List.map_map]
    have read : (Json.object (Keyed.ofList values)).toDocument.toRecord blank _ = _ :=
      Slot.toRecord_object distinct' apart' unique' reads'
    rw [foldl_change apart restored, whole, List.map_map] at read
    exact read

end Entry

end Json

end Eligibility
