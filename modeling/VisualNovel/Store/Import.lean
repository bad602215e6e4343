import VisualNovel.Store.Collections

/-!
# Importing a story

A story is imported from a directory with two files, an array of character records and
one of script lines.  The cast is kept first; the first fault ends the import, and what
was kept before stays.
-/

namespace VisualNovel

/-- The word for the kind of a value. -/
def Json.kindName : Json → String
  | .null => "NoneType"
  | .bool _ => "bool"
  | .num (.whole _) => "int"
  | .num (.real _) => "float"
  | .str _ => "str"
  | .arr _ => "list"
  | .obj _ => "dict"

namespace Store

variable [Json.Room]

/-- The file with the character records. -/
def charactersFile : String := "characters.json"

/-- The file with the script lines. -/
def scenarioFile : String := "scenario.json"

/-- How many records and lines were imported. -/
structure ImportCounts where
  characters : Nat
  scenario : Nat
  deriving DecidableEq, Repr

/-- The array that a file holds. -/
def readArray (path : Path) : Action Json := do
  match ← readJson .imported path with
  | .arr items => return .arr items
  | value => throw (.notAnArray path.name value.kindName)

/-- Keep character records, and say how many they are. -/
def importCharacters (tenant records : Json) : Action Nat := do
  let elements ← elements records
  saveCharacters tenant records
  return elements.length

/-- Keep script lines, and say how many they are. -/
def importScenario (tenant lines : Json) : Action Nat := do
  let elements ← elements lines
  saveScenario tenant lines
  return elements.length

/-- Import the two files of a directory. -/
def importDirectory (source : Path) (tenant : Json) : Action ImportCounts := do
  discard (key "tenant id" tenant)
  let records ← readArray (source.child charactersFile)
  let characters ← importCharacters tenant records
  let lines ← readArray (source.child scenarioFile)
  let scenario ← importScenario tenant lines
  return ⟨characters, scenario⟩

end Store

end VisualNovel
