import VisualNovel.Proofs.Cast.Tells
import VisualNovel.Proofs.Script.Line

/-!
# Entries of the cast

An entry of the cast is an object with the ids of a character and of an expression, with a name
and an image or without, and with any further fields.  Name and image may be there under either
name of their fields.  An entry has an id under which it can be kept.  If it gets through a reply,
it is read as a record, and without the fields that are kept back it is read as the same record.
-/

namespace VisualNovel

open Json CharacterRecord

/-- Is there a text, or no field that would have to be one? -/
def isTextIfThere : Option (String × Json) → Bool
  | none | some (_, .str _) => true
  | some _ => false

theorem isTextIfThere_cases {found : Option (String × Json)} (htext : isTextIfThere found = true) :
    found = none ∨ ∃ name text, found = some (name, .str text) := by
  unfold isTextIfThere at htext
  split at htext
  · exact Or.inl rfl
  · exact Or.inr ⟨_, _, rfl⟩
  · cases htext

/-- An entry of the cast. -/
structure CastEntry where
  fields : Fields
  character : String
  expression : String
  character_eq : OrderedMap.at? "characterId" fields = some (.str character)
  expression_eq : OrderedMap.at? "expressionId" fields = some (.str expression)
  isKey : Key.isKey (character ++ "_" ++ expression) = true
  /-- The ids fit the name of a file. -/
  short : (character ++ "_" ++ expression).length ≤ 250
  name_text : isTextIfThere (Part.name.find? fields) = true
  image_text : isTextIfThere (Part.image.find? fields) = true
  /-- The text of the entry tells all of it. -/
  plain : isPlain (.obj fields) = true

namespace CastEntry

variable {entries permuted : List CastEntry}

/-- The value that the entry is. -/
def value (entry : CastEntry) : Json := .obj entry.fields

/-- The id of the entry. -/
def id (entry : CastEntry) : String := entry.character ++ "_" ++ entry.expression

/-- The entry as it is kept. -/
def document (entry : CastEntry) : String × Json := (entry.id, entry.value)

/-- The text of a field, empty if there is none. -/
def text (field : Field) (entry : CastEntry) : String :=
  textOf ((field.find? entry.fields).map Prod.snd)

/-- The record that the entry is. -/
def record (entry : CastEntry) : CharacterRecord where
  character := entry.character
  name := entry.text Part.name
  expression := entry.expression
  image := entry.text Part.image

/-! ## Reading -/

/-- What a record is read from. -/
def recordFields : List Field := [Part.character, Part.name, Part.expression, Part.image]

theorem startsWith_of_mem {field : Field} (hfield : field ∈ recordFields) :
    field.wire.startsWith "_sa" = false ∧ field.name.startsWith "_sa" = false := by
  revert field
  decide +kernel

theorem isTextIfThere_of_mem (entry : CastEntry) {field : Field} (hfield : field ∈ recordFields) :
    isTextIfThere (field.find? entry.fields) = true := by
  simp only [recordFields, List.mem_cons, List.not_mem_nil, or_false] at hfield
  rcases hfield with rfl | rfl | rfl | rfl
  · rw [Field.find?_of_wire entry.character_eq]
    rfl
  · exact entry.name_text
  · rw [Field.find?_of_wire entry.expression_eq]
    rfl
  · exact entry.image_text

theorem find?_published (entry : CastEntry) {field : Field} (hfield : field ∈ recordFields) :
    field.find? (Http.publishedFields entry.fields) = field.find? entry.fields := by
  obtain ⟨hwire, hname⟩ := startsWith_of_mem hfield
  rw [Http.find?_publishedFields hwire hname]
  rcases isTextIfThere_cases (entry.isTextIfThere_of_mem hfield) with hfind | ⟨other, text, hfind⟩
  · rw [hfind]
    rfl
  · rw [hfind]
    rfl

theorem optional_text (entry : CastEntry) {field : Field}
    (hfield : field ∈ recordFields) {fields : Fields}
    (hsame : field.find? fields = field.find? entry.fields) :
    field.optional "" Reader.text fields = .accepted (entry.text field) := by
  rcases isTextIfThere_cases (entry.isTextIfThere_of_mem hfield) with hfind | ⟨name, text, hfind⟩
  · rw [CastEntry.text, hfind]
    exact Field.optional_of_absent (hsame.trans hfind)
  · rw [CastEntry.text, hfind]
    exact Field.optional_of_find? (hsame.trans hfind) rfl

theorem read_fields (entry : CastEntry) {fields : Fields}
    (hsame : ∀ field ∈ recordFields, field.find? fields = field.find? entry.fields) :
    CharacterRecord.read (.obj fields) = .accepted entry.record := by
  have hcharacter : Part.character.required Reader.text fields = .accepted entry.character := by
    have hmem : Part.character ∈ recordFields := by simp [recordFields]
    have hfind : Part.character.find? entry.fields = some ("characterId", .str entry.character) :=
      Field.find?_of_wire entry.character_eq
    exact Field.required_of_find? ((hsame _ hmem).trans hfind) rfl
  have hexpression : Part.expression.optional "" Reader.text fields =
      .accepted entry.expression := by
    have hmem : Part.expression ∈ recordFields := by simp [recordFields]
    have hfind : Part.expression.find? entry.fields =
        some ("expressionId", .str entry.expression) := Field.find?_of_wire entry.expression_eq
    exact Field.optional_of_find? ((hsame _ hmem).trans hfind) rfl
  have hnameField : Part.name ∈ recordFields := by simp [recordFields]
  have himageField : Part.image ∈ recordFields := by simp [recordFields]
  have hname := entry.optional_text hnameField (hsame _ hnameField)
  have himage := entry.optional_text himageField (hsame _ himageField)
  show (CharacterRecord.mk <$> Part.character.required Reader.text fields
    <*> Part.name.optional "" Reader.text fields
    <*> Part.expression.optional "" Reader.text fields
    <*> Part.image.optional "" Reader.text fields) = _
  rw [hcharacter, hname, hexpression, himage]
  rfl

theorem read_value (entry : CastEntry) :
    CharacterRecord.read entry.value = .accepted entry.record :=
  entry.read_fields fun _ _ => rfl

theorem read_published (entry : CastEntry) :
    CharacterRecord.read (Http.published entry.value) = .accepted entry.record :=
  entry.read_fields fun _ hfield => entry.find?_published hfield

theorem cast_of_read {sent : CastEntry → Json}
    (hread : ∀ entry ∈ entries, CharacterRecord.read (sent entry) = .accepted entry.record) :
    Cast.ofCollection (.arr (entries.map sent)) = .ok (Cast.ofRecords (entries.map record)) := by
  have hcollection : CharacterRecord.read.collection "CharacterRecord" (.arr (entries.map sent)) =
      .ok (entries.map record) := Reader.collection_of_accepted "CharacterRecord" hread
  rw [Cast.ofCollection, hcollection]
  rfl

/-! ## The order of the entries -/

/-- Entries that agree on the names, and have different ids, make casts that tell the same in
whatever order they come. -/
theorem tellsSame_of_perm (hperm : entries.Perm permuted) (hdistinct : (entries.map id).Nodup)
    (hnames : ∀ first ∈ entries, ∀ second ∈ entries,
      first.character = second.character → first.text Part.name = second.text Part.name) :
    (Cast.ofRecords (entries.map record)).TellsSame (Cast.ofRecords (permuted.map record)) := by
  refine Cast.tellsSame_of_perm (hperm.map record) ?_ ?_
  · intro first hfirst second hsecond hcharacter
    obtain ⟨entry, hentry, rfl⟩ := List.mem_map.mp hfirst
    obtain ⟨other, hother, rfl⟩ := List.mem_map.mp hsecond
    exact hnames entry hentry other hother hcharacter
  · intro first hfirst second hsecond hcharacter hexpression
    obtain ⟨entry, hentry, rfl⟩ := List.mem_map.mp hfirst
    obtain ⟨other, hother, rfl⟩ := List.mem_map.mp hsecond
    -- entries about the same expression have the same id
    have hcharacter' : entry.character = other.character := hcharacter
    have hexpression' : entry.expression = other.expression := hexpression
    have hid : entry.id = other.id := by
      rw [id, id, hcharacter', hexpression']
    rw [List.inj_on_of_nodup_map hdistinct hentry hother hid]

/-! ## Keeping -/

theorem ofCharacter_value (entry : CastEntry) :
    DocumentId.ofCharacter entry.value = .ok entry.id :=
  DocumentId.ofCharacter_of_ids entry.character_eq entry.expression_eq

theorem identified (hdistinct : (entries.map id).Nodup) :
    Store.Identified (entries.map document) := by
  refine ⟨?_, ?_, ?_⟩
  · intro kept hmem
    obtain ⟨entry, -, rfl⟩ := List.mem_map.mp hmem
    exact entry.isKey
  · intro kept hmem
    obtain ⟨entry, -, rfl⟩ := List.mem_map.mp hmem
    exact Nat.add_le_add_right entry.short 5
  · rw [List.map_map]
    exact hdistinct

end CastEntry

end VisualNovel
