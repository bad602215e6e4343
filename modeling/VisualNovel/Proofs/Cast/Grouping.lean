import VisualNovel.Proofs.Cast.Tells
import VisualNovel.Proofs.Record.Reading

/-!
# Records grouped into characters

A record tells of one expression of one character.  Grouping the records makes a cast that has each
character once, in the order in which they first come, and for each character each expression once,
again in the order in which they first come (`Cast.Groups`).  The first record of a character gives
the name, and the last record of an expression gives the image.

For the picture of an expression only the last record counts.  If it has no image, then the picture
is the one for all expressions, even if an earlier record had one
(`Cast.ofCollection_groups`).

A part of the records can be grouped on its own: the cast of all of them is the cast of the first
ones, extended by the cast of the others (`Cast.ofRecords_append`).
-/

namespace VisualNovel

/-! ## Valid character records -/

namespace CharacterRecord

/-- Is what is found the text?  Nothing is the empty one. -/
inductive IsText : Option Json → String → Prop
  | missing : IsText none ""
  | text (text : String) : IsText (some (.str text)) text

/-- Is the value a record of the expression?  The id of the character has to be there. -/
inductive IsRecord : Json → CharacterRecord → Prop
  | fields {fields : Fields} {record : CharacterRecord}
      (hthere : Part.character.value? fields ≠ none)
      (hcharacter : IsText (Part.character.value? fields) record.character)
      (hname : IsText (Part.name.value? fields) record.name)
      (hexpression : IsText (Part.expression.value? fields) record.expression)
      (himage : IsText (Part.image.value? fields) record.image) : IsRecord (.obj fields) record

theorem readText_eq_accepted_iff {value : Json} {text : String} :
    Reader.text value = .accepted text ↔ IsText (some value) text := by
  rw [Reader.text_eq_accepted_iff]
  constructor
  · rintro rfl
    exact .text _
  · rintro ⟨⟩
    rfl

theorem optional_text_iff {field : Field} {fields : Fields} {text : String} :
    field.optional "" Reader.text fields = .accepted text ↔
      IsText (field.value? fields) text := by
  refine Field.optional_iff (fun text => ?_) readText_eq_accepted_iff
  constructor
  · rintro ⟨⟩
    rfl
  · rintro rfl
    exact .missing

theorem required_text_iff {field : Field} {fields : Fields} {text : String} :
    field.required Reader.text fields = .accepted text ↔
      field.value? fields ≠ none ∧ IsText (field.value? fields) text := by
  rw [Field.required_eq_accepted_iff]
  cases field.value? fields with
  | none => simp
  | some value => simp [readText_eq_accepted_iff]

theorem read_eq_accepted_iff {value : Json} {record : CharacterRecord} :
    read value = .accepted record ↔ IsRecord value record := by
  cases value with
  | obj fields =>
      show CharacterRecord.mk <$> Part.character.required Reader.text fields
        <*> Part.name.optional "" Reader.text fields
        <*> Part.expression.optional "" Reader.text fields
        <*> Part.image.optional "" Reader.text fields = _ ↔ _
      simp only [Checked.seq_eq_accepted_iff, Checked.map_eq_accepted_iff, required_text_iff,
        optional_text_iff]
      constructor
      · rintro ⟨_, image, ⟨_, expression, ⟨_, name, ⟨character, ⟨hthere, hcharacter⟩, rfl⟩, hname,
          rfl⟩, hexpression, rfl⟩, himage, rfl⟩
        exact ⟨hthere, hcharacter, hname, hexpression, himage⟩
      · rintro ⟨hthere, hcharacter, hname, hexpression, himage⟩
        exact ⟨_, _, ⟨_, _, ⟨_, _, ⟨_, ⟨hthere, hcharacter⟩, rfl⟩, hname, rfl⟩, hexpression, rfl⟩,
          himage, rfl⟩
  | _ => exact iff_of_false nofun nofun

end CharacterRecord

namespace Character

/-- The character with further images; the name stays. -/
def extendedBy (known more : Character) : Character :=
  { known with
    expressions := OrderedMap.merge (fun _ image => image) known.expressions more.expressions }

end Character

namespace Cast

variable {cast more : Cast} {records : List CharacterRecord}

/-! ## What a cast consists of -/

/-- The expressions of a character; one that is not known has none. -/
def expressions (cast : Cast) (character : String) : OrderedMap String String :=
  ((OrderedMap.at? character cast).map Character.expressions).getD []

/-- Is the cast that of the records? -/
structure Groups (records : List CharacterRecord) (cast : Cast) : Prop where
  characters_eq : OrderedMap.keys cast = (records.map CharacterRecord.character).eraseDups
  name_eq : ∀ character, cast.name? character =
    (records.find? fun record => record.character = character).map CharacterRecord.name
  expressions_eq : ∀ character, OrderedMap.keys (cast.expressions character) =
    ((records.filter fun record => record.character = character).map
      CharacterRecord.expression).eraseDups
  image_eq : ∀ character expression, cast.noted? character expression =
    (records.reverse.find? (isAbout character expression)).map CharacterRecord.image

/-- The cast and another one after it.  Characters that both have keep their names and get the
images of both. -/
def extendedBy (cast more : Cast) : Cast := OrderedMap.merge Character.extendedBy cast more

/-! ## The cast of some records -/

theorem expressions_add (cast : Cast) (record : CharacterRecord) (character : String) :
    (cast.add record).expressions character =
      if record.character = character then
        OrderedMap.put record.expression record.image (cast.expressions character)
      else cast.expressions character := by
  by_cases hsame : record.character = character
  · subst hsame
    rw [expressions, at?_add_self, if_pos rfl, expressions]
    cases OrderedMap.at? record.character cast <;> rfl
  · rw [expressions, at?_add_of_ne (Ne.symm hsame), if_neg hsame, expressions]

theorem keys_ofRecords (records : List CharacterRecord) :
    OrderedMap.keys (ofRecords records) =
      (records.map CharacterRecord.character).eraseDups := by
  induction records using List.reverseRecOn with
  | nil => rfl
  | append_singleton records record ih =>
      rw [ofRecords_append_singleton, List.map_append, List.map_singleton]
      exact OrderedMap.keys_put_of_eraseDups ih _ _

theorem keys_expressions_ofRecords (records : List CharacterRecord) (character : String) :
    OrderedMap.keys ((ofRecords records).expressions character) =
      ((records.filter fun record => record.character = character).map
        CharacterRecord.expression).eraseDups := by
  induction records using List.reverseRecOn with
  | nil => rfl
  | append_singleton records record ih =>
      rw [ofRecords_append_singleton, expressions_add, List.filter_append, List.map_append]
      by_cases hsame : record.character = character
      · rw [if_pos hsame, List.filter_cons_of_pos (by simpa using hsame)]
        exact OrderedMap.keys_put_of_eraseDups ih _ _
      · rw [if_neg hsame, List.filter_cons_of_neg (by simpa using hsame)]
        simpa using ih

theorem groups_ofRecords (records : List CharacterRecord) : Groups records (ofRecords records) where
  characters_eq := keys_ofRecords records
  name_eq := name?_ofRecords records
  expressions_eq := keys_expressions_ofRecords records
  image_eq := noted?_ofRecords records

/-! ## Records in two parts -/

theorem nodup_keys_ofRecords (records : List CharacterRecord) :
    (OrderedMap.keys (ofRecords records)).Nodup := by
  rw [keys_ofRecords]
  exact OrderedMap.nodup_eraseDups _

/-- No expression of a character comes twice. -/
theorem nodup_keys_of_at? {character : String} {known : Character}
    (hknown : OrderedMap.at? character (ofRecords records) = some known) :
    (OrderedMap.keys known.expressions).Nodup := by
  have hexpressions : (ofRecords records).expressions character = known.expressions := by
    rw [expressions, hknown]
    rfl
  rw [← hexpressions, keys_expressions_ofRecords]
  exact OrderedMap.nodup_eraseDups _

theorem extendedBy_put (known more : Character)
    (hknown : (OrderedMap.keys known.expressions).Nodup)
    (hmore : (OrderedMap.keys more.expressions).Nodup) (expression image : String) :
    known.extendedBy
        { more with expressions := OrderedMap.put expression image more.expressions } =
      { known with
        expressions :=
          OrderedMap.put expression image (known.extendedBy more).expressions } := by
  rw [Character.extendedBy, OrderedMap.merge_put hknown hmore]
  have hlater : ((OrderedMap.at? expression known.expressions).map fun _ => image).getD image =
      image := by
    cases OrderedMap.at? expression known.expressions <;> rfl
  rw [hlater]
  rfl

/-- A record may be added before the cast is put after another one, or afterwards. -/
theorem extendedBy_add (first second : List CharacterRecord) (record : CharacterRecord) :
    (ofRecords first).extendedBy ((ofRecords second).add record) =
      ((ofRecords first).extendedBy (ofRecords second)).add record := by
  have hsecond := nodup_keys_ofRecords second
  rw [extendedBy, add, OrderedMap.merge_put (nodup_keys_ofRecords first) hsecond, add, extendedBy,
    OrderedMap.at?_merge hsecond]
  congr 1
  cases hknown : OrderedMap.at? record.character (ofRecords first) with
  | none =>
      rw [Option.merge_none_left]
      rfl
  | some known =>
      cases hmore : OrderedMap.at? record.character (ofRecords second) with
      | none =>
          exact extendedBy_put known ⟨record.name, []⟩ (nodup_keys_of_at? hknown) List.nodup_nil _ _
      | some more =>
          exact extendedBy_put known more (nodup_keys_of_at? hknown) (nodup_keys_of_at? hmore) _ _

theorem ofRecords_append (first second : List CharacterRecord) :
    ofRecords (first ++ second) = (ofRecords first).extendedBy (ofRecords second) := by
  induction second using List.reverseRecOn with
  | nil =>
      rw [List.append_nil]
      rfl
  | append_singleton second record ih =>
      rw [← List.append_assoc, ofRecords_append_singleton, ih, ofRecords_append_singleton,
        extendedBy_add]

/-! ## Pictures -/

/-- The picture of an expression is the image of the last record, if that has one. -/
theorem portraitAddress_ofRecords (records : List CharacterRecord) (commands : List Command)
    (resolver : Resolver) (character expression : String) :
    Catalog.portraitAddress ⟨commands, ofRecords records⟩ resolver character expression =
      ((records.reverse.find? (isAbout character expression)).bind fun last =>
        if last.image = "" then none else some last.image).getD (resolver.portrait character) := by
  rw [Catalog.portraitAddress, image?_eq, noted?_ofRecords, Option.bind_map]
  rfl

theorem ofCollection_of_records {values : List Json}
    (hrecords : List.Forall₂ CharacterRecord.IsRecord values records) :
    ofCollection (.arr values) = .ok (ofRecords records) := by
  have hread : List.Forall₂ (fun value record => CharacterRecord.read value = .accepted record)
      values records := hrecords.imp fun _ _ => CharacterRecord.read_eq_accepted_iff.mpr
  rw [ofCollection, Reader.collection_eq_ok_iff.mpr hread]
  rfl

/-- **Valid records are grouped into characters, and the picture of an expression is that of its
last record.** -/
theorem ofCollection_groups (values : List Json) :
    (∀ records, List.Forall₂ CharacterRecord.IsRecord values records →
      ∃ cast, ofCollection (.arr values) = .ok cast ∧ Groups records cast ∧
        ∀ commands resolver character expression,
          (∀ last ∈ records.reverse.find? (isAbout character expression), last.image ≠ "" →
            Catalog.portraitAddress ⟨commands, cast⟩ resolver character expression = last.image) ∧
          ((∀ last ∈ records.reverse.find? (isAbout character expression), last.image = "") →
            Catalog.portraitAddress ⟨commands, cast⟩ resolver character expression =
              resolver.portrait character)) ∧
    ∀ more, ofCollection (.arr (values ++ more)) = (do
      let first ← ofCollection (.arr values)
      let second ← ofCollection (.arr more)
      return first.extendedBy second) := by
  constructor
  · intro records hrecords
    refine ⟨ofRecords records, ofCollection_of_records hrecords, groups_ofRecords records, ?_⟩
    intro commands resolver character expression
    rw [portraitAddress_ofRecords]
    cases records.reverse.find? (isAbout character expression) with
    | none => exact ⟨nofun, fun _ => rfl⟩
    | some last =>
        constructor
        · rintro _ ⟨⟩ himage
          rw [Option.bind_some, if_neg himage, Option.getD_some]
        · intro himage
          rw [Option.bind_some, if_pos (himage last rfl), Option.getD_none]
  · intro more
    rw [ofCollection, ofCollection, ofCollection, Reader.collection_append]
    cases CharacterRecord.read.collection "CharacterRecord" (.arr values) with
    | error fault => rfl
    | ok first =>
        cases CharacterRecord.read.collection "CharacterRecord" (.arr more) with
        | error fault => rfl
        | ok second => exact congrArg Except.ok (ofRecords_append first second)

/-- Three values, the first and the last one about the same expression. -/
def threeValues : List Json :=
  [.obj [("characterId", .str "mika"), ("characterName", .str "Mika"),
     ("expressionId", .str "smile"), ("imageUrl", .str "one.png")],
   .obj [("character_id", .str "ren"), ("note", .null)],
   .obj [("characterId", .str "mika"), ("characterName", .str "Mia"),
     ("expression_id", .str "smile"), ("imageUrl", .str "")]]

/-- What they are records of. -/
def threeRecords : List CharacterRecord :=
  [{ character := "mika", name := "Mika", expression := "smile", image := "one.png" },
   { character := "ren" },
   { character := "mika", name := "Mia", expression := "smile" }]

theorem threeValues_valid : List.Forall₂ CharacterRecord.IsRecord threeValues threeRecords :=
  .cons ⟨Option.some_ne_none _, .text _, .text _, .text _, .text _⟩
    (.cons ⟨Option.some_ne_none _, .text _, .missing, .missing, .missing⟩
      (.cons ⟨Option.some_ne_none _, .text _, .text _, .text _, .text _⟩ .nil))

/-- A last record without an image takes away the image of an earlier one, but not the name. -/
theorem ofCollection_groups_three :
    ∃ cast, ofCollection (.arr threeValues) = .ok cast ∧
      OrderedMap.keys cast = ["mika", "ren"] ∧ cast.name? "mika" = some "Mika" ∧
      ∀ resolver, Catalog.portraitAddress ⟨[], cast⟩ resolver "mika" "smile" =
        resolver.portrait "mika" := by
  obtain ⟨cast, hcast, hgroups, hpictures⟩ :=
    (ofCollection_groups threeValues).1 threeRecords threeValues_valid
  refine ⟨cast, hcast, hgroups.characters_eq, hgroups.name_eq "mika", fun resolver => ?_⟩
  refine (hpictures [] resolver "mika" "smile").2 ?_
  rintro _ ⟨⟩
  rfl

end Cast

end VisualNovel
