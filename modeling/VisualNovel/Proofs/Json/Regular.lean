import VisualNovel.Json.Printer
import VisualNovel.Proofs.Json.Strings
import VisualNovel.Proofs.Number.Shortest
import VisualNovel.Proofs.OrderedMap

/-!
# Values that can be read back

A value is regular if its numbers are numbers that a text can bring, and no object in it has a key
twice.  What is asked of its texts, keys among them, is left open: a value whose texts have no pair
of unpaired units is told by its own text (`IsExact`), and of values that come out of a reader
nothing can be said about the texts (`IsTidy`).

The texts of a value that can be sent have no unpaired units at all, so a tidy value that can be
sent is exact.
-/

namespace VisualNovel

/-- Is the number one that a text can bring? -/
def Number.IsReadable : Number → Prop
  | .whole value => (Nat.toDigits 10 value.natAbs).length ≤ Numeral.digitLimit
  | .real value => value.IsProper

namespace Json

variable {kind weaker : String → Prop} {value : Json} {items : List Json}
  {fields : List (String × Json)}

mutual

/-- Can all numbers of the value be read, are all of its texts of a kind, and has no object in it a
key twice? -/
def IsRegular (kind : String → Prop) : Json → Prop
  | .num number => number.IsReadable
  | .str text => kind text
  | .arr items => ItemsRegular kind items
  | .obj fields => (fields.map Prod.fst).Nodup ∧ FieldsRegular kind fields
  | _ => True

/-- Are all items of an array regular? -/
def ItemsRegular (kind : String → Prop) : List Json → Prop
  | [] => True
  | item :: rest => IsRegular kind item ∧ ItemsRegular kind rest

/-- Are the names of all fields of the kind, and their values regular? -/
def FieldsRegular (kind : String → Prop) : List (String × Json) → Prop
  | [] => True
  | (name, value) :: rest => kind name ∧ IsRegular kind value ∧ FieldsRegular kind rest

end

/-- Does the text of the value tell all of it? -/
abbrev IsExact (value : Json) : Prop := IsRegular (fun text => Text.isJoined text = true) value

/-- Is the value regular, whatever its texts are? -/
abbrev IsTidy (value : Json) : Prop := IsRegular (fun _ => True) value

theorem itemsRegular_iff : ItemsRegular kind items ↔ ∀ item ∈ items, IsRegular kind item := by
  induction items with
  | nil => exact iff_of_true trivial (List.forall_mem_nil _)
  | cons first rest ih => rw [ItemsRegular, ih, List.forall_mem_cons]

theorem fieldsRegular_iff : FieldsRegular kind fields ↔
    ∀ field ∈ fields, kind field.1 ∧ IsRegular kind field.2 := by
  induction fields with
  | nil => exact iff_of_true trivial (List.forall_mem_nil _)
  | cons first rest ih =>
      obtain ⟨name, value⟩ := first
      rw [FieldsRegular, ih, List.forall_mem_cons, and_assoc]

theorem isRegular_arr_iff : IsRegular kind (.arr items) ↔ ∀ item ∈ items, IsRegular kind item := by
  rw [IsRegular, itemsRegular_iff]

theorem isRegular_obj_iff : IsRegular kind (.obj fields) ↔ (OrderedMap.keys fields).Nodup ∧
    ∀ field ∈ fields, kind field.1 ∧ IsRegular kind field.2 := by
  rw [IsRegular, fieldsRegular_iff]
  rfl

theorem isRegular_singleton {name : String} (hname : kind name) (hvalue : IsRegular kind value) :
    IsRegular kind (.obj [(name, value)]) :=
  ⟨List.pairwise_singleton _ _, hname, hvalue, trivial⟩

/-- Of the fields with one name the last counts, so no name is left twice. -/
theorem isRegular_ofPairs (hfields : FieldsRegular kind fields) :
    IsRegular kind (.obj (OrderedMap.ofPairs fields)) :=
  isRegular_obj_iff.mpr ⟨OrderedMap.nodup_keys_ofPairs fields,
    fun field hmem => fieldsRegular_iff.mp hfields field (OrderedMap.mem_of_mem_ofPairs hmem)⟩

theorem isRegular_put {name : String} (hfields : IsRegular kind (.obj fields)) (hname : kind name)
    (hvalue : IsRegular kind value) : IsRegular kind (.obj (OrderedMap.put name value fields)) := by
  obtain ⟨hnodup, hregular⟩ := isRegular_obj_iff.mp hfields
  refine isRegular_obj_iff.mpr ⟨OrderedMap.nodup_keys_put hnodup _ _, ?_⟩
  intro field hmem
  rcases OrderedMap.mem_put hmem with rfl | hold
  · exact ⟨hname, hvalue⟩
  · exact hregular field hold

theorem isRegular_of_at? {name : String} (hfields : IsRegular kind (.obj fields))
    (hvalue : OrderedMap.at? name fields = some value) : IsRegular kind value :=
  ((isRegular_obj_iff.mp hfields).2 _ (OrderedMap.mem_of_at? hvalue)).2

/-! ## What can be sent -/

mutual

/-- The texts of a value that can be sent have no unpaired units. -/
theorem isExact_of_isSendable : ∀ {value : Json}, IsRegular kind value →
    isSendable value = true → IsExact value
  | .null, _, _ => trivial
  | .bool _, _, _ => trivial
  | .num _, hregular, _ => hregular
  | .str _, _, hsendable => Text.isJoined_of_isEncodable hsendable
  | .arr _, hregular, hsendable => itemsExact_of_itemsSendable hregular hsendable
  | .obj _, hregular, hsendable =>
      ⟨hregular.1, fieldsExact_of_fieldsSendable hregular.2 hsendable⟩

theorem itemsExact_of_itemsSendable : ∀ {items : List Json}, ItemsRegular kind items →
    itemsSendable items = true → ItemsRegular (fun text => Text.isJoined text = true) items
  | [], _, _ => trivial
  | _ :: _, hregular, hsendable => by
      rw [itemsSendable, Bool.and_eq_true] at hsendable
      exact ⟨isExact_of_isSendable hregular.1 hsendable.1,
        itemsExact_of_itemsSendable hregular.2 hsendable.2⟩

theorem fieldsExact_of_fieldsSendable : ∀ {fields : List (String × Json)},
    FieldsRegular kind fields → fieldsSendable fields = true →
      FieldsRegular (fun text => Text.isJoined text = true) fields
  | [], _, _ => trivial
  | (_, _) :: _, hregular, hsendable => by
      rw [fieldsSendable, Bool.and_eq_true, Bool.and_eq_true] at hsendable
      obtain ⟨⟨hname, hvalue⟩, hrest⟩ := hsendable
      exact ⟨Text.isJoined_of_isEncodable hname, isExact_of_isSendable hregular.2.1 hvalue,
        fieldsExact_of_fieldsSendable hregular.2.2 hrest⟩

end

end Json

end VisualNovel
