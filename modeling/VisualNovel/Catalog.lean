import VisualNovel.Asset
import VisualNovel.Cast
import VisualNovel.Script.Command

/-!
# The catalog

A catalog is all that a story needs: the script in its order, and the cast.
-/

namespace VisualNovel

/-- The script in its order, and the cast. -/
structure Catalog where
  commands : List Command := []
  characters : Cast := []
  deriving DecidableEq, Repr

namespace Catalog

namespace Part

/-- The script. -/
def commands : Field := .plain "commands"

/-- The cast. -/
def characters : Field := .plain "characters"

end Part

/-- A catalog. -/
def read : Reader Catalog :=
  Reader.record fun fields =>
    Catalog.mk <$> Part.commands.optional [] (Reader.list Command.read) fields
      <*> Part.characters.optional [] (Reader.map Character.read) fields

/-- The catalog as a record. -/
def toJson (style : Dump) (catalog : Catalog) : Json :=
  style.record
    [(Part.commands, .arr (catalog.commands.map (Command.toJson style))),
     (Part.characters, Dump.map (Character.toJson style) catalog.characters)]

/-- The catalog of a collection of script lines and one of character records; the
script is examined first. -/
def ofCollections (scenario characters : Json) : Except CollectionFault Catalog := do
  let commands ← Command.script scenario
  let cast ← Cast.ofCollection characters
  return ⟨commands, cast⟩

/-- The address of the picture of a character with an expression: the one that the
cast names, or the one for all expressions of the character. -/
def portraitAddress (catalog : Catalog) (resolver : Resolver)
    (character expression : String) : String :=
  (catalog.characters.image? character expression).getD (resolver.portrait character)

/-- Why the picture of a character has no address, if it has none.  One that the cast names
has its address there. -/
def portraitFault? (catalog : Catalog) (character expression : String) :
    Option Text.Unencodable :=
  match catalog.characters.image? character expression with
  | some _ => none
  | none => Resolver.portraitFault? character

/-- The address of the picture of a character with an expression, if it has one. -/
def tryPortraitAddress (catalog : Catalog) (resolver : Resolver)
    (character expression : String) : Except Text.Unencodable String :=
  Text.guarded (catalog.portraitFault? character expression)
    (catalog.portraitAddress resolver character expression)

end Catalog

end VisualNovel
