import VisualNovel.Http.Server
import VisualNovel.Proofs.Json.RoundTrip

/-!
# Values that get through

A value gets through a message as it is (`Json.Portable`) if its text tells all of it, if it can
be sent, and if it is not too deep to be read.  What is portable is so part by part.

A reply keeps back the fields whose names start with `_sa`, at every depth.  It stays plain, and
the other fields of an object are still found in it, with their values as they are sent.  A reply
with records is portable exactly if all of its records get through (`Http.Arrives`).
-/

namespace VisualNovel

namespace Json

variable {value : Json} {items : List Json} {fields : List (String × Json)} {depth : Nat}

/-- Does the value get through a message as it is, to a reader that goes this deep? -/
structure Portable (value : Json) (depth : Nat) : Prop where
  plain : isPlain value = true
  sendable : isSendable value = true
  shallow : nesting value ≤ depth

theorem Portable.isExact (hportable : Portable value depth) : IsExact value :=
  isExact_of_isPlain hportable.plain

/-! ## Portable parts -/

theorem portable_text {text : String} (hencodable : Text.isEncodable text = true) :
    Portable (.str text) depth :=
  ⟨Text.isJoined_of_isEncodable hencodable, hencodable, Nat.zero_le _⟩

/-- What is asked of all items of an array is asked of every one. -/
theorem itemsPortable_iff :
    (itemsPlain items = true ∧ itemsSendable items = true ∧ itemsNesting items ≤ depth) ↔
      ∀ item ∈ items, Portable item depth := by
  induction items with
  | nil => exact iff_of_true ⟨rfl, rfl, Nat.zero_le _⟩ (List.forall_mem_nil _)
  | cons first rest ih =>
      rw [List.forall_mem_cons, ← ih, itemsPlain, itemsSendable, itemsNesting, Bool.and_eq_true,
        Bool.and_eq_true, Nat.max_le]
      constructor
      · rintro ⟨⟨hplain, hplain'⟩, ⟨hsendable, hsendable'⟩, hshallow, hshallow'⟩
        exact ⟨⟨hplain, hsendable, hshallow⟩, hplain', hsendable', hshallow'⟩
      · rintro ⟨⟨hplain, hsendable, hshallow⟩, hplain', hsendable', hshallow'⟩
        exact ⟨⟨hplain, hplain'⟩, ⟨hsendable, hsendable'⟩, hshallow, hshallow'⟩

theorem portable_arr_iff :
    Portable (.arr items) (depth + 1) ↔ ∀ item ∈ items, Portable item depth := by
  rw [← itemsPortable_iff]
  constructor
  · rintro ⟨hplain, hsendable, hshallow⟩
    exact ⟨hplain, hsendable, Nat.le_of_succ_le_succ hshallow⟩
  · rintro ⟨hplain, hsendable, hshallow⟩
    exact ⟨hplain, hsendable, Nat.succ_le_succ hshallow⟩

/-- What is asked of all fields of an object is asked of every one; a name that can be sent is
told by its text. -/
theorem fieldsPortable_iff :
    (fieldsPlain fields = true ∧ fieldsSendable fields = true ∧ fieldsNesting fields ≤ depth) ↔
      ∀ field ∈ fields, Text.isEncodable field.1 = true ∧ Portable field.2 depth := by
  induction fields with
  | nil => exact iff_of_true ⟨rfl, rfl, Nat.zero_le _⟩ (List.forall_mem_nil _)
  | cons first rest ih =>
      obtain ⟨name, value⟩ := first
      rw [List.forall_mem_cons, ← ih, fieldsPlain, fieldsSendable, fieldsNesting,
        Bool.and_eq_true, Bool.and_eq_true, Bool.and_eq_true, Bool.and_eq_true, Nat.max_le]
      constructor
      · rintro ⟨⟨⟨-, hplain⟩, hplain'⟩, ⟨⟨hname, hsendable⟩, hsendable'⟩, hshallow, hshallow'⟩
        exact ⟨⟨hname, hplain, hsendable, hshallow⟩, hplain', hsendable', hshallow'⟩
      · rintro ⟨⟨hname, hplain, hsendable, hshallow⟩, hplain', hsendable', hshallow'⟩
        have hjoined := Text.isJoined_of_isEncodable hname
        exact ⟨⟨⟨hjoined, hplain⟩, hplain'⟩, ⟨⟨hname, hsendable⟩, hsendable'⟩, hshallow, hshallow'⟩

/-- An object is portable if its values are, and its names can be sent and are all different. -/
theorem portable_obj_iff :
    Portable (.obj fields) (depth + 1) ↔ (fields.map Prod.fst).Nodup ∧
      ∀ field ∈ fields, Text.isEncodable field.1 = true ∧ Portable field.2 depth := by
  rw [← fieldsPortable_iff]
  constructor
  · rintro ⟨hplain, hsendable, hshallow⟩
    rw [isPlain, Bool.and_eq_true, decide_eq_true_eq] at hplain
    exact ⟨hplain.1, hplain.2, hsendable, Nat.le_of_succ_le_succ hshallow⟩
  · rintro ⟨hnodup, hplain, hsendable, hshallow⟩
    refine ⟨?_, hsendable, Nat.succ_le_succ hshallow⟩
    rw [isPlain, hplain, Bool.and_true, decide_eq_true_eq]
    exact hnodup

theorem portable_singleton {name : String} (hname : Text.isEncodable name = true)
    (hvalue : Portable value depth) : Portable (.obj [(name, value)]) (depth + 1) := by
  refine portable_obj_iff.mpr ⟨List.pairwise_singleton _ _, ?_⟩
  intro field hmem
  rw [List.mem_singleton.mp hmem]
  exact ⟨hname, hvalue⟩

theorem portable_put {name : String} (hfields : Portable (.obj fields) (depth + 1))
    (hname : Text.isEncodable name = true) (hvalue : Portable value depth) :
    Portable (.obj (OrderedMap.put name value fields)) (depth + 1) := by
  obtain ⟨hnodup, hportable⟩ := portable_obj_iff.mp hfields
  refine portable_obj_iff.mpr ⟨OrderedMap.nodup_keys_put hnodup _ _, ?_⟩
  intro field hmem
  rcases OrderedMap.mem_put hmem with rfl | hold
  · exact ⟨hname, hvalue⟩
  · exact hportable field hold

end Json

/-! ## Replies -/

namespace Http

open Json

variable {fields : List (String × Json)} {depth : Nat}

theorem keys_publishedFields_subset (fields : List (String × Json)) :
    ((publishedFields fields).map Prod.fst).Sublist (fields.map Prod.fst) := by
  induction fields with
  | nil => exact List.Sublist.refl _
  | cons field rest ih =>
      obtain ⟨name, value⟩ := field
      rw [publishedFields]
      split_ifs
      · exact ih.cons _
      · exact ih.cons_cons _

mutual

theorem isPlain_published : ∀ {value : Json}, isPlain value = true →
    isPlain (published value) = true
  | .null, hplain => hplain
  | .bool _, hplain => hplain
  | .num _, hplain => hplain
  | .str _, hplain => hplain
  | .arr items, hplain => by
      rw [isPlain] at hplain
      rw [published, isPlain]
      exact itemsPlain_publishedItems hplain
  | .obj fields, hplain => by
      rw [isPlain, Bool.and_eq_true, decide_eq_true_eq] at hplain
      rw [published, isPlain, Bool.and_eq_true, decide_eq_true_eq]
      exact ⟨hplain.1.sublist (keys_publishedFields_subset fields),
        fieldsPlain_publishedFields hplain.2⟩

theorem itemsPlain_publishedItems : ∀ {items : List Json}, itemsPlain items = true →
    itemsPlain (publishedItems items) = true
  | [], hplain => hplain
  | first :: rest, hplain => by
      rw [itemsPlain, Bool.and_eq_true] at hplain
      rw [publishedItems, itemsPlain, isPlain_published hplain.1,
        itemsPlain_publishedItems hplain.2]
      rfl

theorem fieldsPlain_publishedFields : ∀ {fields : List (String × Json)},
    fieldsPlain fields = true → fieldsPlain (publishedFields fields) = true
  | [], hplain => hplain
  | (name, value) :: rest, hplain => by
      rw [fieldsPlain, Bool.and_eq_true, Bool.and_eq_true] at hplain
      obtain ⟨⟨hname, hvalue⟩, hrest⟩ := hplain
      rw [publishedFields]
      split_ifs
      · exact fieldsPlain_publishedFields hrest
      · rw [fieldsPlain, hname, isPlain_published hvalue, fieldsPlain_publishedFields hrest]
        rfl

end

mutual

theorem isRegular_published {kind : String → Prop} : ∀ {value : Json}, IsRegular kind value →
    IsRegular kind (published value)
  | .null, hregular => hregular
  | .bool _, hregular => hregular
  | .num _, hregular => hregular
  | .str _, hregular => hregular
  | .arr _, hregular => itemsRegular_publishedItems hregular
  | .obj fields, hregular =>
      ⟨hregular.1.sublist (keys_publishedFields_subset fields),
        fieldsRegular_publishedFields hregular.2⟩

theorem itemsRegular_publishedItems {kind : String → Prop} : ∀ {items : List Json},
    ItemsRegular kind items → ItemsRegular kind (publishedItems items)
  | [], _ => trivial
  | _ :: _, hregular =>
      ⟨isRegular_published hregular.1, itemsRegular_publishedItems hregular.2⟩

theorem fieldsRegular_publishedFields {kind : String → Prop} : ∀ {fields : List (String × Json)},
    FieldsRegular kind fields → FieldsRegular kind (publishedFields fields)
  | [], _ => trivial
  | (name, value) :: rest, hregular => by
      obtain ⟨hname, hvalue, hrest⟩ := hregular
      rw [publishedFields]
      split_ifs
      · exact fieldsRegular_publishedFields hrest
      · exact ⟨hname, isRegular_published hvalue, fieldsRegular_publishedFields hrest⟩

end

theorem at?_publishedFields {name : String} (hname : name.startsWith "_sa" = false)
    (fields : List (String × Json)) :
    OrderedMap.at? name (publishedFields fields) =
      (OrderedMap.at? name fields).map published := by
  induction fields with
  | nil => rfl
  | cons field rest ih =>
      obtain ⟨other, value⟩ := field
      rw [publishedFields, OrderedMap.at?_cons]
      by_cases hsame : other = name
      · subst hsame
        rw [if_pos rfl, hname, if_neg Bool.false_ne_true, OrderedMap.at?_cons, if_pos rfl]
        rfl
      · rw [if_neg hsame, ← ih]
        split_ifs
        · rfl
        · rw [OrderedMap.at?_cons, if_neg hsame]

theorem find?_publishedFields {field : Field} (hwire : field.wire.startsWith "_sa" = false)
    (hname : field.name.startsWith "_sa" = false) (fields : List (String × Json)) :
    field.find? (publishedFields fields) =
      (field.find? fields).map fun found => (found.1, published found.2) := by
  unfold Field.find?
  rw [at?_publishedFields hwire, at?_publishedFields hname]
  cases OrderedMap.at? field.wire fields with
  | some value => rfl
  | none =>
      rw [Option.map_none, Option.map_map, Option.map_map]
      rfl

theorem publishedItems_eq_map (items : List Json) : publishedItems items = items.map published := by
  induction items with
  | nil => rfl
  | cons item rest ih => rw [publishedItems, ih, List.map_cons]

/-! ## Records in a reply -/

/-- Does a record get through a reply, in which it is an item of an array under a name? -/
structure Arrives [Room] (name : String) (record : Json) : Prop where
  portable : Portable (published record) (Room.depth .response - 2)
  sent : Room.sends (.obj [(name, .arr [published record])]) = true

variable {records : List Json}

theorem publishedFields_records {name : String} (hname : name.startsWith "_sa" = false)
    (records : List Json) :
    publishedFields [(name, .arr records)] = [(name, .arr (records.map published))] := by
  rw [publishedFields, hname, if_neg Bool.false_ne_true, published, publishedItems_eq_map,
    publishedFields]

/-- A reply with records is sent and gets through if every record does. -/
theorem sends_records_iff [Room] {name : String} (hname : Text.isEncodable name = true) :
    (Room.sends (.obj [(name, .arr (records.map published))]) = true ∧
      Portable (.obj [(name, .arr (records.map published))]) (Room.depth .response)) ↔
      ∀ record ∈ records, Arrives name record := by
  obtain ⟨depth, hdepth⟩ : ∃ depth, Room.depth .response = depth + 2 :=
    Nat.exists_eq_add_of_le' ((by decide : 2 ≤ 4).trans (Room.four_le_depth .response))
  have hportable : Portable (.obj [(name, .arr (records.map published))]) (depth + 2) ↔
      ∀ record ∈ records, Portable (published record) depth := by
    rw [← List.forall_mem_map (P := fun value => Portable value depth), ← portable_arr_iff]
    exact ⟨fun hportable => ((portable_obj_iff.mp hportable).2 _ (List.mem_singleton_self _)).2,
      portable_singleton hname⟩
  rw [Room.sends_list, List.all_map, List.all_eq_true, hdepth, hportable, ← forall₂_and]
  refine forall₂_congr fun record _ => ?_
  refine ⟨fun ⟨hsent, harrives⟩ => ⟨?_, hsent⟩, fun harrives => ⟨harrives.sent, ?_⟩⟩
  · rwa [hdepth]
  · have hrecord := harrives.portable
    rwa [hdepth] at hrecord

theorem isPlain_records {name : String} (hname : Text.isJoined name = true)
    (hplain : ∀ record ∈ records, isPlain record = true) :
    isPlain (.obj [(name, .arr (records.map published))]) = true := by
  have hitems : itemsPlain (records.map published) = true := by
    rw [itemsPlain_iff, List.forall_mem_map]
    intro record hmem
    exact isPlain_published (hplain record hmem)
  rw [isPlain, fieldsPlain, fieldsPlain, isPlain, hitems, hname]
  rfl

end Http

end VisualNovel
