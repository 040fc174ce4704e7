import Eligibility.Proofs.Json.Ordered
import Eligibility.Proofs.Context.Frame
import Eligibility.Proofs.Context.OpenPaths

/-!
JSON data read into a context. The leaves of nested objects have paths of which
none leads through another, as long as no key has a point in it. Writes at such
paths do not disturb each other, so each is read back as if it had been made
alone, whatever their order.
-/

set_option autoImplicit false

namespace Eligibility

/-! ## Paths and their texts -/

namespace Path

/-- No key has a point in it, so each is a segment of a path. -/
def Plain (keys : List String) : Prop := ∀ key ∈ keys, '.' ∉ key.toList

instance (keys : List String) : Decidable (Plain keys) :=
  inferInstanceAs (Decidable (∀ key ∈ keys, _))

theorem ofText_intercalate {keys : List String} (nonempty : keys ≠ []) (plain : Plain keys) :
    ofText (".".intercalate keys) = keys := by
  have pieces : Text.splitChars (· = '.') (".".intercalate keys).toList =
      keys.map String.toList := by
    rw [Text.splitChars_eq_splitOn, String.toList_intercalate]
    exact List.splitOn_intercalate '.' (List.forall_mem_map.mpr plain) (by simpa using nonempty)
  rw [ofText, Text.split, pieces, List.map_map]
  have each : String.ofList ∘ String.toList = id := funext fun s => String.ofList_toList
  rw [each, List.map_id]

theorem intercalate_ofText (path : String) : ".".intercalate (ofText path) = path := by
  rw [← String.toList_inj, String.toList_intercalate, ofText, Text.split, List.map_map]
  have each : String.toList ∘ String.ofList = id := funext fun cs => String.toList_ofList
  rw [each, List.map_id]
  exact Text.intercalate_splitChars '.' path.toList

theorem overlaps_comm (first second : Path) : first.overlaps second = second.overlaps first :=
  Bool.or_comm _ _

end Path

/-! ## Places in nested objects -/

namespace Json

def isObject : Json → Bool
  | .object _ => true
  | _ => false

def at? : List String → Json → Option Json
  | [], json => some json
  | key :: rest, .object fields => (Keyed.find? key fields).bind (at? rest)
  | _ :: _, _ => none

def leafAt? (keys : List String) (json : Json) : Option Json :=
  (json.at? keys).filter (!·.isObject)

mutual

def keys : Json → List String
  | .object fields => keysOfFields fields
  | _ => []

def keysOfFields : List (String × Json) → List String
  | [] => []
  | (key, value) :: rest => key :: (keys value ++ keysOfFields rest)

end

mutual

/-- The leaves of nested objects, each with the keys that lead to it. -/
def places : Json → List (List String × Json)
  | .object fields => placesOfFields fields
  | leaf => [([], leaf)]

def placesOfFields : List (String × Json) → List (List String × Json)
  | [] => []
  | (key, value) :: rest =>
    (places value).map (fun place => (key :: place.1, place.2)) ++ placesOfFields rest

end

theorem mem_placesOfFields_cons {key : String} {value : Json} {rest : List (String × Json)}
    {place : List String × Json} :
    place ∈ placesOfFields ((key, value) :: rest) ↔
      (∃ inner ∈ value.places, (key :: inner.1, inner.2) = place) ∨
        place ∈ placesOfFields rest := by
  rw [placesOfFields, List.mem_append, List.mem_map]

theorem head_of_mem_placesOfFields {fields : List (String × Json)} {place : List String × Json}
    (member : place ∈ placesOfFields fields) :
    ∃ field ∈ fields, ∃ inner ∈ field.2.places, place = (field.1 :: inner.1, inner.2) := by
  induction fields with
  | nil => cases member
  | cons field rest ih =>
    rcases mem_placesOfFields_cons.mp member with ⟨inner, below, rfl⟩ | later
    · exact ⟨field, List.mem_cons_self, inner, below, rfl⟩
    · obtain ⟨other, among, found⟩ := ih later
      exact ⟨other, List.mem_cons_of_mem _ among, found⟩

theorem leafAt?_of_leaf {json : Json} (leaf : json.isObject = false) (keys : List String) :
    json.leafAt? keys = if keys = [] then some json else none := by
  cases keys with
  | nil => simp [leafAt?, at?, leaf]
  | cons key rest => cases json <;> first | rfl | cases leaf

theorem leafAt?_cons (key : String) (rest : List String) (fields : List (String × Json)) :
    (Json.object fields).leafAt? (key :: rest) =
      (Keyed.find? key fields).bind (leafAt? rest) := by
  simp only [leafAt?, at?]
  cases Keyed.find? key fields <;> rfl

mutual

theorem mem_places_iff : ∀ {json : Json}, json.Ordered → ∀ {keys : List String} {leaf : Json},
    (keys, leaf) ∈ json.places ↔ json.leafAt? keys = some leaf
  | .null, _, keys, leaf | .bool _, _, keys, leaf | .number _, _, keys, leaf
  | .text _, _, keys, leaf | .array _, _, keys, leaf => by
    rw [leafAt?_of_leaf rfl, places]
    · constructor
      · intro member
        cases List.mem_singleton.mp member
        rfl
      · intro found
        split at found
        case isTrue nowhere => cases nowhere; cases found; exact List.mem_singleton_self _
        case isFalse => cases found
    · nofun
  | .object fields, .object ascending each, keys, leaf => by
    cases keys with
    | nil =>
      constructor
      · intro member
        obtain ⟨_, _, _, _, same⟩ := head_of_mem_placesOfFields member
        cases same
      · nofun
    | cons key rest =>
      rw [leafAt?_cons, places, mem_placesOfFields_iff each, Option.bind_eq_some_iff]
      simp only [Keyed.find?_eq_some_iff ascending.nodup]

theorem mem_placesOfFields_iff : ∀ {fields : List (String × Json)},
    (∀ field ∈ fields, field.2.Ordered) → ∀ {key : String} {keys : List String} {leaf : Json},
    (key :: keys, leaf) ∈ placesOfFields fields ↔
      ∃ value, (key, value) ∈ fields ∧ value.leafAt? keys = some leaf
  | [], _, _, _, _ => by simp [placesOfFields]
  | (name, value) :: rest, each, key, keys, leaf => by
    obtain ⟨first, others⟩ := List.forall_mem_cons.mp each
    rw [mem_placesOfFields_cons, mem_placesOfFields_iff others]
    constructor
    · rintro (⟨inner, below, same⟩ | ⟨found, among, leads⟩)
      · cases same
        exact ⟨value, List.mem_cons_self, (mem_places_iff first).mp below⟩
      · exact ⟨found, List.mem_cons_of_mem _ among, leads⟩
    · rintro ⟨found, among, leads⟩
      rcases List.mem_cons.mp among with same | later
      · cases same
        exact .inl ⟨(keys, leaf), (mem_places_iff first).mpr leads, rfl⟩
      · exact .inr ⟨found, later, leads⟩

end

mutual

theorem places_apart : ∀ {json : Json}, json.Ordered →
    json.places.Pairwise fun first second => Path.overlaps first.1 second.1 = false
  | .null, _ | .bool _, _ | .number _, _ | .text _, _ | .array _, _ => List.pairwise_singleton _ _
  | .object _, .object ascending each => placesOfFields_apart ascending each

theorem placesOfFields_apart : ∀ {fields : List (String × Json)}, Keyed.Ascending fields →
    (∀ field ∈ fields, field.2.Ordered) →
    (placesOfFields fields).Pairwise fun first second => Path.overlaps first.1 second.1 = false
  | [], _, _ => .nil
  | (key, value) :: rest, ascending, each => by
    obtain ⟨first, others⟩ := List.forall_mem_cons.mp each
    obtain ⟨below, sorted⟩ := List.pairwise_cons.mp ascending
    rw [placesOfFields, List.pairwise_append]
    refine ⟨?_, placesOfFields_apart sorted others, ?_⟩
    · rw [List.pairwise_map]
      exact (places_apart first).imp fun apart => (Path.overlaps_cons ..).trans apart
    · intro place member other later
      obtain ⟨inner, _, rfl⟩ := List.mem_map.mp member
      obtain ⟨field, among, deeper, _, rfl⟩ := head_of_mem_placesOfFields later
      -- Keys ascend, so a later field has another key.
      have before : key < field.1 := below _ (List.mem_map_of_mem among)
      exact Path.overlaps_cons_of_ne (fun same => String.lt_irrefl _ (same ▸ before)) _ _

end

mutual

theorem keys_of_mem_places : ∀ {json : Json} {place : List String × Json},
    place ∈ json.places → ∀ key ∈ place.1, key ∈ json.keys
  | .null, _, member | .bool _, _, member | .number _, _, member | .text _, _, member
  | .array _, _, member => by
    cases List.mem_singleton.mp member
    nofun
  | .object _, _, member => keys_of_mem_placesOfFields member

theorem keys_of_mem_placesOfFields : ∀ {fields : List (String × Json)}
    {place : List String × Json}, place ∈ placesOfFields fields →
    ∀ key ∈ place.1, key ∈ keysOfFields fields
  | [], _, member => by cases member
  | (name, value) :: rest, place, member => by
    intro key among
    rw [keysOfFields, List.mem_cons, List.mem_append]
    rcases mem_placesOfFields_cons.mp member with ⟨inner, below, rfl⟩ | later
    · rcases List.mem_cons.mp among with rfl | deeper
      · exact .inl rfl
      · exact .inr (.inl (keys_of_mem_places below key deeper))
    · exact .inr (.inr (keys_of_mem_placesOfFields later key among))

end

theorem ne_nil_of_mem_places {fields : List (String × Json)} {place : List String × Json}
    (member : place ∈ (Json.object fields).places) : place.1 ≠ [] := by
  obtain ⟨_, _, _, _, rfl⟩ := head_of_mem_placesOfFields member
  exact List.cons_ne_nil _ _

end Json

namespace Context

/-! ## Writes that do not meet -/

/-- No write is made at a path that overlaps another one's. -/
def Apart (history : List (String × Value)) : Prop :=
  history.Pairwise fun first second =>
    (Path.ofText first.1).overlaps (Path.ofText second.1) = false

section
variable {history other : List (String × Value)}

theorem Apart.nodup (apart : Apart history) : (history.map Prod.fst).Nodup := by
  rw [List.nodup_iff_pairwise_ne, List.pairwise_map]
  refine List.Pairwise.imp ?_ apart
  intro first second apart same
  rw [same, Path.overlaps_self] at apart
  cases apart

theorem Apart.perm (apart : Apart history) (rearranged : other.Perm history) : Apart other := by
  refine (rearranged.pairwise_iff ?_).mpr apart
  intro first second apart
  rwa [Path.overlaps_comm]

theorem get?_insertAll_of_unwritten {path : String}
    (unwritten : ∀ write ∈ history, write.1 ≠ path) :
    (empty.insertAll history).get? path = none := by
  -- The induction goes on from any context without an answer at the path, in the
  -- profile or beside it.
  suffices ∀ ctx : Context, (ProfileField.ofKey? path).bind ctx.profile.get? = none →
      find? (Path.ofText path) ctx.answers = none → (ctx.insertAll history).get? path = none by
    refine this empty ?_ rfl
    cases ProfileField.ofKey? path with
    | none => rfl
    | some field => cases field <;> rfl
  induction history with
  | nil =>
    intro ctx noField noAnswer
    simp [insertAll, get?, noField, noAnswer]
  | cons write rest ih =>
    intro ctx noField noAnswer
    obtain ⟨first, others⟩ := List.forall_mem_cons.mp unwritten
    refine ih others (ctx.insert write.1 write.2) ?_ ?_
    · cases known : ProfileField.ofKey? path with
      | none => rfl
      | some field =>
        rw [known] at noField
        obtain rfl := ProfileField.ofKey?_eq_some_iff.mp known
        rw [Option.bind_some, profile_insert, ProfileField.after, if_neg first]
        exact noField
    · have different : Path.ofText write.1 ≠ Path.ofText path :=
        fun same => first (Path.ofText_inj.mp same)
      rw [find?_insert, noAnswer, Path.afterWrite, if_neg different]
      simp

theorem get?_insertAll_of_apart (apart : Apart history) (path : String) :
    (empty.insertAll history).get? path =
      (Keyed.find? path history).bind fun value => (empty.insert path value).get? path := by
  cases found : Keyed.find? path history with
  | none =>
    refine get?_insertAll_of_unwritten fun write member same => ?_
    exact Keyed.find?_eq_none_iff.mp found (same ▸ List.mem_map_of_mem member)
  | some value =>
    obtain ⟨before, after, rfl⟩ :=
      List.append_of_mem ((Keyed.find?_eq_some_iff apart.nodup).mp found)
    have split := List.pairwise_append.mp apart
    -- Of all writes, only this one touches the path.
    have earlier : before.filter (touches [path]) = [] := by
      refine List.filter_eq_nil_iff.mpr fun write member => ?_
      simpa [touches] using split.2.2 write member _ List.mem_cons_self
    have later : after.filter (touches [path]) = [] := by
      refine List.filter_eq_nil_iff.mpr fun write member => ?_
      have apart := (List.pairwise_cons.mp split.2.1).1 write member
      simpa [touches, Path.overlaps_comm] using apart
    have itself : touches [path] (path, value) = true := by simp [touches, Path.overlaps_self]
    have agrees := insertAll_filter_touches (List.mem_singleton_self path) (.refl path empty)
      (before ++ (path, value) :: after)
    rw [List.filter_append, earlier, List.filter_cons_of_pos itself, later] at agrees
    exact agrees.get?.symm

theorem get?_insertAll_perm (apart : Apart history) (rearranged : other.Perm history)
    (path : String) : (empty.insertAll other).get? path = (empty.insertAll history).get? path := by
  have apart' := apart.perm rearranged
  rw [get?_insertAll_of_apart apart, get?_insertAll_of_apart apart']
  congr 1
  refine Option.ext fun value => ?_
  rw [Keyed.find?_eq_some_iff apart.nodup, Keyed.find?_eq_some_iff apart'.nodup,
    rearranged.mem_iff]

end

/-! ## Data -/

mutual

theorem leaves_eq (path : String) : ∀ json : Json, leaves path json =
    json.places.map fun place => (".".intercalate (path :: place.1), place.2)
  | .null | .bool _ | .number _ | .text _ | .array _ => by
    simp [leaves, Json.places, String.intercalate_singleton]
  | .object fields => leavesOfFields_eq path fields

theorem leavesOfFields_eq (path : String) : ∀ fields : List (String × Json),
    leavesOfFields path fields =
      (Json.placesOfFields fields).map fun place => (".".intercalate (path :: place.1), place.2)
  | [] => rfl
  | (key, value) :: rest => by
    rw [leavesOfFields, leaves_eq, leavesOfFields_eq path rest, Json.placesOfFields,
      List.map_append, List.map_map]
    rfl

end

theorem writesOf_eq (fields : List (String × Json)) :
    writesOf fields = (Json.object fields).places.map fun place =>
      (".".intercalate place.1, Value.ofJson place.2) := by
  rw [writesOf, Json.places]
  induction fields with
  | nil => rfl
  | cons field rest ih =>
    rw [List.flatMap_cons, List.map_append, ih, leaves_eq, Json.placesOfFields, List.map_append,
      List.map_map, List.map_map]
    rfl

theorem ofText_of_mem_places {fields : List (String × Json)}
    (plain : Path.Plain (Json.object fields).keys) {place : List String × Json}
    (member : place ∈ (Json.object fields).places) :
    Path.ofText (".".intercalate place.1) = place.1 :=
  Path.ofText_intercalate (Json.ne_nil_of_mem_places member) fun key among =>
    plain key (Json.keys_of_mem_places member key among)

section
variable {fields : List (String × Json)} (ordered : (Json.object fields).Ordered)
  (plain : Path.Plain (Json.object fields).keys)
include ordered plain

theorem apart_writesOf : Apart (writesOf fields) := by
  rw [writesOf_eq, Apart, List.pairwise_map]
  refine List.Pairwise.imp_of_mem (fun first second apart => ?_) (Json.places_apart ordered)
  rwa [ofText_of_mem_places plain first, ofText_of_mem_places plain second]

theorem find?_writesOf (path : String) :
    Keyed.find? path (writesOf fields) =
      ((Json.object fields).leafAt? (Path.ofText path)).map Value.ofJson := by
  refine Option.ext fun value => ?_
  rw [Keyed.find?_eq_some_iff (apart_writesOf ordered plain).nodup, writesOf_eq, List.mem_map,
    Option.map_eq_some_iff]
  constructor
  · rintro ⟨place, member, same⟩
    cases same
    refine ⟨place.2, ?_, rfl⟩
    rw [ofText_of_mem_places plain member]
    exact (Json.mem_places_iff ordered).mp member
  · rintro ⟨leaf, leads, rfl⟩
    refine ⟨(Path.ofText path, leaf), (Json.mem_places_iff ordered).mpr leads, ?_⟩
    rw [Path.intercalate_ofText]

end

/-- What a leaf is read as at its place: under the key of a known field as that
field holds it, and anywhere else as the value that it is. -/
def readAs (leaf : Json) : List String → Option Value
  | [key] =>
    match ProfileField.ofKey? key with
    | some field => (empty.insert field.key (Value.ofJson leaf)).get? field.key
    | none => some (Value.ofJson leaf)
  | _ => some (Value.ofJson leaf)

theorem readAs_key (leaf : Json) (field : ProfileField) :
    readAs leaf [field.key] = written .empty field (Value.ofJson leaf) := by
  have unset : empty.profile.get? field = none := by cases field <;> rfl
  simp only [readAs, ProfileField.ofKey?_key]
  rw [get?_insert_key, unset, written_eq]
  cases field.takes? (Value.ofJson leaf) <;> rfl

theorem get?_insert_empty (path : String) (leaf : Json) :
    (empty.insert path (Value.ofJson leaf)).get? path = readAs leaf (Path.ofText path) := by
  cases known : ProfileField.ofKey? path with
  | some field =>
    obtain rfl := ProfileField.ofKey?_eq_some_iff.mp known
    simp only [Path.ofText_key, readAs, known]
  | none =>
    rw [get?_insert_of_open known, Path.afterWrite, if_pos rfl]
    unfold readAs
    split
    case h_1 key alone =>
      have same : key = path := by
        rw [← Path.intercalate_ofText path, alone, String.intercalate_singleton]
      rw [same, known]
    case h_2 => rfl

/-- JSON data whose keys have no points is read place by place: the leaf that
the keys lead to is the answer at their path, and there is no answer where they
lead to none. The order of the writes does not matter. -/
theorem ofJson_flattens {fields : List (String × Json)} (ordered : (Json.object fields).Ordered)
    (plain : Path.Plain (Json.object fields).keys) :
    ∃ ctx, ofJson (.object fields) = .ok ctx ∧
      (∀ keys : List String, keys ≠ [] → Path.Plain keys →
        ctx.get? (".".intercalate keys) =
          ((Json.object fields).leafAt? keys).bind (readAs · keys)) ∧
      (∀ path : String, ctx.get? path =
        ((Json.object fields).leafAt? (Path.ofText path)).bind (readAs · (Path.ofText path))) ∧
      (∀ field, readAs .null [field.key] = none ∧
        ∀ leaf, readAs leaf [field.key] = written .empty field (Value.ofJson leaf)) ∧
      (∀ history, history.Perm (writesOf fields) →
        ∀ path, (empty.insertAll history).get? path = ctx.get? path) := by
  have apart := apart_writesOf ordered plain
  have reads : ∀ path : String, (empty.insertAll (writesOf fields)).get? path =
      ((Json.object fields).leafAt? (Path.ofText path)).bind (readAs · (Path.ofText path)) := by
    intro path
    rw [get?_insertAll_of_apart apart, find?_writesOf ordered plain, Option.bind_map]
    simp only [Function.comp_def, get?_insert_empty]
  refine ⟨_, ofJson_object fields, ?_, reads, fun field => ⟨?_, (readAs_key · field)⟩, ?_⟩
  · intro keys nonempty points
    -- Joined keys without points split into the same keys again.
    rw [reads, Path.ofText_intercalate nonempty points]
  · rw [readAs_key]
    cases field <;> rfl
  · exact fun history rearranged => get?_insertAll_perm apart rearranged

/-- A key with a point in it has no place of its own, but its path leads to one. -/
theorem ofJson_flattens_not_of_pointed_key :
    let fields : List (String × Json) := [("a", .object [("b", .number (.natural 1))])]
    (Json.object fields).Ordered ∧ Path.Plain (Json.object fields).keys ∧
    (Json.object fields).leafAt? ["a.b"] = none ∧
    ∃ ctx, ofJson (.object fields) = .ok ctx ∧
      ctx.get? (".".intercalate ["a.b"]) = some (.int 1) := by
  intro fields
  have ordered : (Json.object fields).Ordered :=
    Json.Ordered.single (.single (.number _))
  refine ⟨ordered, by decide, by decide, _, ofJson_object fields, rfl⟩

/-- An object under the key of a known field, a refused text, and empty keys. -/
theorem ofJson_flattens_household :
    let fields : List (String × Json) :=
      [ ("", .object [("", .null)]), ("age", .object [("months", .number (.natural 3))]),
        ("housing", .object []), ("isPregnant", .text "maybe") ]
    ∃ ctx, ofJson (.object fields) = .ok ctx ∧
      ctx.get? "." = some .null ∧ ctx.get? "" = none ∧
      ctx.get? "age.months" = some (.int 3) ∧ ctx.get? "age" = none ∧
      ctx.get? "housing" = none ∧ ctx.get? "isPregnant" = some (.text "maybe") := by
  intro fields
  have empty : (Json.object []).Ordered := .object .nil (List.forall_mem_nil _)
  have ordered : (Json.object fields).Ordered := by
    refine .object (by decide) ?_
    simpa [fields] using
      ⟨.single .null, .single (.number _), empty, Json.Ordered.text "maybe"⟩
  obtain ⟨ctx, read, byKeys, byPath, _⟩ := ofJson_flattens ordered (by decide)
  exact ⟨ctx, read, byPath ".", byPath "", byKeys ["age", "months"] (by decide) (by decide),
    byPath "age", byPath "housing", byPath "isPregnant"⟩

end Context

end Eligibility
