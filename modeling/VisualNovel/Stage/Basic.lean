import VisualNovel.Catalog

/-!
# The stage

The stage is what is visible: a background, and the portraits of the characters in
the order in which they came on.  A character that is shown again keeps its place; one
that left and comes back stands last.
-/

namespace VisualNovel

/-- The picture of a character on the stage. -/
structure Portrait where
  expression : String
  position : String := defaultPosition
  address : String := ""
  deriving DecidableEq, Repr

/-- What is visible. -/
structure Stage where
  /-- The background, as the script names it. -/
  background : Option String := none
  /-- The portraits, in the order in which they are drawn. -/
  portraits : OrderedMap String Portrait := []
  deriving DecidableEq, Repr

/-- The stage before anything is shown. -/
def Stage.empty : Stage := {}

/-! ## Records -/

namespace Portrait

namespace Part

/-- The id of the expression. -/
def expression : Field := .plain "expression_id"

/-- Where the portrait stands. -/
def position : Field := .plain "position"

/-- Where the picture is. -/
def address : Field := .plain "url"

end Part

/-- A portrait. -/
def read : Reader Portrait :=
  Reader.record fun fields =>
    Portrait.mk <$> Part.expression.required Reader.text fields
      <*> Part.position.optional defaultPosition Reader.text fields
      <*> Part.address.optional "" Reader.text fields

/-- The portrait as a record. -/
def toJson (style : Dump) (portrait : Portrait) : Json :=
  style.record
    [(Part.expression, .str portrait.expression), (Part.position, .str portrait.position),
     (Part.address, .str portrait.address)]

end Portrait

namespace Stage

namespace Part

/-- The background. -/
def background : Field := .plain "background"

/-- The portraits. -/
def portraits : Field := .plain "portraits"

end Part

/-- A stage. -/
def read : Reader Stage :=
  Reader.record fun fields =>
    Stage.mk <$> Part.background.optional none (Reader.nullable Reader.text) fields
      <*> Part.portraits.optional [] (Reader.map Portrait.read) fields

/-- The stage as a record. -/
def toJson (style : Dump) (stage : Stage) : Json :=
  style.record
    [(Part.background, Dump.optionalText stage.background),
     (Part.portraits, Dump.map (Portrait.toJson style) stage.portraits)]

end Stage

end VisualNovel
