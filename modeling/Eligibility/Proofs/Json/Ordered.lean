import Mathlib.Data.List.Perm.Basic
import Mathlib.Data.List.Nodup
import Eligibility.Json.Document

/-!
JSON values whose objects hold their keys in ascending order. Ordering the
fields of an object loses none of them, and a value in order is what its own
document stands for.
-/

set_option autoImplicit false

namespace Eligibility

/-! ## Entries under text keys -/

namespace Keyed

variable {α : Type}

def Ascending (entries : List (String × α)) : Prop := (entries.map Prod.fst).Pairwise (· < ·)

instance (entries : List (String × α)) : Decidable (Ascending entries) :=
  inferInstanceAs (Decidable (List.Pairwise _ _))

theorem Ascending.nodup {entries : List (String × α)} (ascending : Ascending entries) :
    (entries.map Prod.fst).Nodup := by
  refine List.nodup_iff_pairwise_ne.mpr (List.Pairwise.imp ?_ ascending)
  rintro key _ before rfl
  exact String.lt_irrefl key before

theorem insert_of_below {key : String} (a : α) {entries : List (String × α)}
    (below : ∀ entry ∈ entries, entry.1 < key) : insert key a entries = entries ++ [(key, a)] := by
  induction entries with
  | nil => rfl
  | cons entry rest ih =>
    obtain ⟨first, others⟩ := List.forall_mem_cons.mp below
    have different : entry.1 ≠ key := fun same => String.lt_irrefl key (same ▸ first)
    have after : ¬key < entry.1 := String.lt_asymm first
    rw [insert, if_neg different, if_neg after, ih others]
    rfl

theorem foldl_insert_of_ascending (done entries : List (String × α))
    (ascending : Ascending (done ++ entries)) :
    entries.foldl (fun done entry => insert entry.1 entry.2 done) done = done ++ entries := by
  induction entries generalizing done with
  | nil => simp
  | cons entry rest ih =>
    have below : ∀ earlier ∈ done, earlier.1 < entry.1 := by
      intro earlier member
      unfold Ascending at ascending
      rw [List.map_append, List.pairwise_append] at ascending
      exact ascending.2.2 _ (List.mem_map_of_mem member) _ List.mem_cons_self
    rw [List.foldl_cons, insert_of_below entry.2 below, ih]
    · simp
    · simpa using ascending

theorem ofList_of_ascending {entries : List (String × α)} (ascending : Ascending entries) :
    ofList entries = entries :=
  foldl_insert_of_ascending [] entries ascending

theorem insert_perm {key : String} (a : α) {entries : List (String × α)}
    (fresh : key ∉ entries.map Prod.fst) : (insert key a entries).Perm ((key, a) :: entries) := by
  induction entries with
  | nil => exact .refl _
  | cons entry rest ih =>
    simp only [List.map_cons, List.mem_cons, not_or] at fresh
    rw [insert, if_neg (Ne.symm fresh.1)]
    split
    · exact .refl _
    · exact ((ih fresh.2).cons entry).trans (.swap _ _ rest)

theorem insert_subset (key : String) (a : α) (entries : List (String × α)) :
    insert key a entries ⊆ (key, a) :: entries := by
  induction entries with
  | nil => exact List.Subset.refl _
  | cons entry rest ih =>
    rw [insert]
    split
    · exact List.cons_subset_cons _ (List.subset_cons_self entry rest)
    · split
      · exact List.Subset.refl _
      · have swapped := (List.Perm.swap (key, a) entry rest).subset
        exact List.Subset.trans (List.cons_subset_cons entry ih) swapped

theorem Ascending.insert {entries : List (String × α)} (ascending : Ascending entries)
    (key : String) (a : α) : Ascending (Keyed.insert key a entries) := by
  induction entries with
  | nil => exact List.pairwise_singleton _ _
  | cons entry rest ih =>
    obtain ⟨below, sorted⟩ := List.pairwise_cons.mp ascending
    rw [Keyed.insert]
    split
    case isTrue same =>
      subst same
      exact List.pairwise_cons.mpr ⟨below, sorted⟩
    case isFalse different =>
      split
      case isTrue before =>
        refine List.pairwise_cons.mpr ⟨fun later member => ?_, ascending⟩
        rcases List.mem_cons.mp member with rfl | member
        · exact before
        · exact String.lt_trans before (below later member)
      case isFalse notBefore =>
        have after : entry.1 < key := by
          refine String.not_le.mp fun le => different ?_
          exact String.le_antisymm (String.not_lt.mp notBefore) le
        have keys := List.map_subset Prod.fst (insert_subset key a rest)
        refine List.pairwise_cons.mpr ⟨fun later member => ?_, ih sorted⟩
        rcases List.mem_cons.mp (keys member) with rfl | member
        · exact after
        · exact below later member

theorem ascending_ofList (entries : List (String × α)) : Ascending (ofList entries) := by
  unfold ofList
  suffices ∀ done : List (String × α), Ascending done →
      Ascending (entries.foldl (fun done entry => Keyed.insert entry.1 entry.2 done) done) from
    this [] .nil
  induction entries with
  | nil => exact fun _ ascending => ascending
  | cons entry rest ih => exact fun done ascending => ih _ (ascending.insert entry.1 entry.2)

theorem find?_eq_none_iff {key : String} {entries : List (String × α)} :
    find? key entries = none ↔ key ∉ entries.map Prod.fst := by
  induction entries with
  | nil => simp
  | cons entry rest ih =>
    rw [find?, List.map_cons, List.mem_cons, not_or, ← ih, eq_comm (a := key)]
    by_cases same : entry.1 = key <;> simp [same]

theorem ofList_perm {entries : List (String × α)} (distinct : (entries.map Prod.fst).Nodup) :
    (ofList entries).Perm entries := by
  unfold ofList
  -- What is inserted next has a key that none of those before it has.
  suffices ∀ done : List (String × α), ((done ++ entries).map Prod.fst).Nodup →
      (entries.foldl (fun done entry => insert entry.1 entry.2 done) done).Perm
        (done ++ entries) from
    this [] distinct
  intro done
  induction entries generalizing done with
  | nil => intro _; simp
  | cons entry rest ih =>
    intro nodup
    have keys := nodup
    simp only [List.map_append, List.map_cons, List.nodup_middle, List.nodup_cons,
      List.mem_append, not_or] at keys
    obtain ⟨⟨fresh, _⟩, others⟩ := keys
    have next : (insert entry.1 entry.2 done ++ rest).Perm (done ++ entry :: rest) :=
      ((insert_perm entry.2 fresh).append_right rest).trans List.perm_middle.symm
    rw [List.foldl_cons]
    refine (ih (List.nodup_append.mp others).2.1 _ ?_).trans next
    exact (next.map Prod.fst).nodup_iff.mpr nodup

theorem find?_eq_some_iff {entries : List (String × α)}
    (distinct : (entries.map Prod.fst).Nodup) {key : String} {a : α} :
    find? key entries = some a ↔ (key, a) ∈ entries := by
  induction entries with
  | nil => simp
  | cons entry rest ih =>
    rw [List.map_cons, List.nodup_cons] at distinct
    rw [find?]
    split
    case isTrue same =>
      subst same
      have alone : (entry.1, a) ∉ rest := fun later =>
        distinct.1 (List.mem_map.mpr ⟨_, later, rfl⟩)
      rw [Option.some_inj, List.mem_cons, or_iff_left alone]
      constructor
      · rintro rfl
        rfl
      · intro whole
        rw [← whole]
    case isFalse different =>
      have other : (key, a) ≠ entry := fun same => different (same ▸ rfl)
      simp [other, ih distinct.2]

theorem find?_ofList {entries : List (String × α)} (distinct : (entries.map Prod.fst).Nodup)
    (key : String) : find? key (ofList entries) = find? key entries := by
  have rearranged := ofList_perm distinct
  have distinct' := (rearranged.map Prod.fst).nodup_iff.mpr distinct
  refine Option.ext fun a => ?_
  rw [find?_eq_some_iff distinct', find?_eq_some_iff distinct, rearranged.mem_iff]

end Keyed

/-! ## Values in order -/

namespace Json

/-- Every object inside the value holds its keys in ascending order. -/
inductive Ordered : Json → Prop where
  | null : Ordered .null
  | bool (b : Bool) : Ordered (.bool b)
  | number (n : Numeral) : Ordered (.number n)
  | text (s : String) : Ordered (.text s)
  | array {items : List Json} : (∀ item ∈ items, Ordered item) → Ordered (.array items)
  | object {fields : List (String × Json)} : Keyed.Ascending fields →
      (∀ field ∈ fields, Ordered field.2) → Ordered (.object fields)

theorem Ordered.single {key : String} {json : Json} (ordered : json.Ordered) :
    (Json.object [(key, json)]).Ordered :=
  .object (List.pairwise_singleton _ _) (List.forall_mem_singleton.mpr ordered)

mutual

theorem toJson_toDocument : ∀ {json : Json}, json.Ordered → json.toDocument.toJson = .ok json
  | .null, _ | .bool _, _ | .number _, _ | .text _, _ => rfl
  | .array items, .array each => by
    simp only [toDocument, Document.toJson, itemsToJson_toDocument each]
    rfl
  | .object fields, .object ascending each => by
    simp only [toDocument, Document.toJson, fieldsToJson_toDocument each]
    change Except.ok (Json.ofFields fields) = _
    rw [ofFields, Keyed.ofList_of_ascending ascending]

theorem itemsToJson_toDocument : ∀ {items : List Json}, (∀ item ∈ items, item.Ordered) →
    Document.itemsToJson (itemsToDocument items) = .ok items
  | [], _ => rfl
  | item :: rest, each => by
    obtain ⟨first, others⟩ := List.forall_mem_cons.mp each
    simp only [itemsToDocument, Document.itemsToJson, toJson_toDocument first,
      itemsToJson_toDocument others]
    rfl

theorem fieldsToJson_toDocument : ∀ {fields : List (String × Json)},
    (∀ field ∈ fields, field.2.Ordered) →
    Document.fieldsToJson (fieldsToDocument fields) = .ok fields
  | [], _ => rfl
  | (key, value) :: rest, each => by
    obtain ⟨first, others⟩ := List.forall_mem_cons.mp each
    simp only [fieldsToDocument, Document.fieldsToJson, Document.toKey, toJson_toDocument first,
      fieldsToJson_toDocument others]
    rfl

end

end Json

end Eligibility
