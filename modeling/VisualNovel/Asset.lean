import VisualNovel.Script.Command
import VisualNovel.Text.Percent

/-!
# Where images are

Scripts name backgrounds and characters by ids.  A resolver turns an id into the
address of an image below a base: the path of the image as one component of the
address, and a query that asks for the image itself.  A background that already is
an address on the web stays what it is.

A path with an unpaired unit has no address.  `backgroundFault?` and `portraitFault?` say for
which ids this is so; `background` and `portrait` are for the others.
-/

namespace VisualNovel

/-- The base of the addresses, which ends in a slash, and the query after them. -/
structure Resolver where
  base : String
  query : String
  deriving DecidableEq, Repr

namespace Resolver

/-- The query that asks for an image itself. -/
def defaultQuery : String := "?alt=media"

/-- A resolver for the images below `base`. -/
def below (base query : String) : Resolver :=
  ⟨if base.endsWith "/" then base else base ++ "/", query⟩

/-- Does the id say itself where the image is? -/
def isWebAddress (id : String) : Bool :=
  id.startsWith "http://" || id.startsWith "https://"

/-- The path of the image of a background. -/
def backgroundPath (id : String) : String := "backgrounds/" ++ id ++ ".png"

/-- The path of the image of a character. -/
def portraitPath (character : String) : String := "characters/" ++ character ++ ".png"

/-- The address of the image at a path. -/
def address (resolver : Resolver) (path : String) : String :=
  resolver.base ++ Percent.encode path ++ resolver.query

/-- The address of a background. -/
def background (resolver : Resolver) (id : String) : String :=
  if id = "" then ""
  else if isWebAddress id then id
  else resolver.address (backgroundPath id)

/-- Why a background has no address, if it has none. -/
def backgroundFault? (id : String) : Option Text.Unencodable :=
  if id = "" ∨ isWebAddress id then none else Text.unencodable? (backgroundPath id)

/-- The address of a background, if it has one. -/
def tryBackground (resolver : Resolver) (id : String) : Except Text.Unencodable String :=
  Text.guarded (backgroundFault? id) (resolver.background id)

/-- The address of the portrait that stands for all expressions of a character. -/
def portrait (resolver : Resolver) (character : String) : String :=
  if character = "" ∨ character = narrator then ""
  else resolver.address (portraitPath character)

/-- Why the portrait of a character has no address, if it has none. -/
def portraitFault? (character : String) : Option Text.Unencodable :=
  if character = "" ∨ character = narrator then none
  else Text.unencodable? (portraitPath character)

/-- The address of the portrait of a character, if it has one. -/
def tryPortrait (resolver : Resolver) (character : String) : Except Text.Unencodable String :=
  Text.guarded (portraitFault? character) (resolver.portrait character)

end Resolver

end VisualNovel
