import VisualNovel.Record.Dump
import VisualNovel.Record.Refusal
import VisualNovel.Record.Scalar

/-!
# The cast

The cast comes as records, one for each expression of each character.  Grouping
them makes one character of the records of one id: the first record gives the name,
and the last record of an expression gives its image.
-/

namespace VisualNovel

/-- One expression of one character. -/
structure CharacterRecord where
  character : String
  name : String := ""
  expression : String := ""
  image : String := ""
  deriving DecidableEq, Repr

/-- A character: the name, and the images of its expressions. -/
structure Character where
  name : String
  expressions : OrderedMap String String := []
  deriving DecidableEq, Repr

/-- The characters under their ids. -/
abbrev Cast : Type := OrderedMap String Character

namespace CharacterRecord

namespace Part

/-- The id of the character. -/
def character : Field := ⟨"character_id", "characterId"⟩

/-- The name of the character. -/
def name : Field := ⟨"character_name", "characterName"⟩

/-- The id of the expression. -/
def expression : Field := ⟨"expression_id", "expressionId"⟩

/-- Where the image of the expression is. -/
def image : Field := ⟨"image_url", "imageUrl"⟩

end Part

/-- A record of one expression. -/
def read : Reader CharacterRecord :=
  Reader.record fun fields =>
    CharacterRecord.mk <$> Part.character.required Reader.text fields
      <*> Part.name.optional "" Reader.text fields
      <*> Part.expression.optional "" Reader.text fields
      <*> Part.image.optional "" Reader.text fields

/-- The record as a value. -/
def toJson (style : Dump) (record : CharacterRecord) : Json :=
  style.record
    [(Part.character, .str record.character), (Part.name, .str record.name),
     (Part.expression, .str record.expression), (Part.image, .str record.image)]

end CharacterRecord

namespace Character

namespace Part

/-- The name, which may leave a place for that of the player. -/
def name : Field := .plain "name"

/-- The images of the expressions. -/
def expressions : Field := .plain "expressions"

end Part

/-- A character. -/
def read : Reader Character :=
  Reader.record fun fields =>
    Character.mk <$> Part.name.required Reader.text fields
      <*> Part.expressions.optional [] (Reader.map Reader.text) fields

/-- The character as a record. -/
def toJson (style : Dump) (character : Character) : Json :=
  style.record
    [(Part.name, .str character.name),
     (Part.expressions, Dump.map Json.str character.expressions)]

end Character

namespace Cast

/-- The cast with one more record. -/
def add (cast : Cast) (record : CharacterRecord) : Cast :=
  let character := (OrderedMap.at? record.character cast).getD ⟨record.name, []⟩
  OrderedMap.put record.character
    { character with
      expressions := OrderedMap.put record.expression record.image character.expressions }
    cast

/-- The characters of a list of records. -/
def ofRecords (records : List CharacterRecord) : Cast :=
  records.foldl add []

/-- The characters of the records among the elements of a value. -/
def ofCollection (records : Json) : Except CollectionFault Cast :=
  (CharacterRecord.read.collection "CharacterRecord" records).map ofRecords

/-- The image that the cast names for an expression of a character, if it names one. -/
def image? (cast : Cast) (character expression : String) : Option String := do
  let known ← OrderedMap.at? character cast
  let image ← OrderedMap.at? expression known.expressions
  if image = "" then none else some image

end Cast

end VisualNovel
