import VisualNovel.Save.Code
import VisualNovel.Store.Basic

/-!
# Scripts, casts and saves in the store

Every tenant has three collections.  A script line is kept under its number, filled up
to five places with zeros; a character record under the ids of the character and of the
expression; and a save under a new code, stamped with the time.

Lines and records are taken as they come, and are examined only as far as their ids
need it.
-/

namespace VisualNovel

namespace DocumentId

/-- The text with zeros in front that make it at least `width` long; a sign stays in
front of them. -/
def zeroFilled (width : Nat) (text : List Char) : List Char :=
  let zeros := List.replicate (width - text.length) '0'
  match text with
  | '+' :: rest => '+' :: (zeros ++ rest)
  | '-' :: rest => '-' :: (zeros ++ rest)
  | text => zeros ++ text

/-- The id of the script line with a number. -/
def ofOrder (order : Json) : String :=
  String.ofList (zeroFilled 5 order.display.toList)

/-- The id of a script line; without a number it has number zero. -/
def ofLine : Json → Except StoreFault String
  | .obj fields => .ok (ofOrder ((OrderedMap.at? "order" fields).getD (.int 0)))
  | _ => .error .notARecord

/-- The id of a character record. -/
def ofCharacter : Json → Except StoreFault String
  | .obj fields =>
    match OrderedMap.at? "characterId" fields with
    | none => .error (.missingField "characterId")
    | some character =>
      match OrderedMap.at? "expressionId" fields with
      | none => .error (.missingField "expressionId")
      | some expression => .ok (character.display ++ "_" ++ expression.display)
  | _ => .error .notIndexable

end DocumentId

namespace Store

variable [Json.Room]

/-- The collection of script lines. -/
def scenarioCollection : Json := .str "scenario"

/-- The collection of character records. -/
def characterCollection : Json := .str "characters"

/-- The collection of saves. -/
def saveCollection : Json := .str "saveData"

/-- The elements of a value as documents under their ids; of several with one id the
last one counts. -/
def identified (identify : Json → Except StoreFault String) (records : Json) :
    Action Json := do
  let elements ← elements records
  let pairs ← elements.mapM fun element =>
    match identify element with
    | .ok id => pure (id, element)
    | .error fault => throw fault
  return .obj (OrderedMap.ofPairs pairs)

/-! ## Scripts and casts -/

/-- The script lines of a tenant, in the order of their ids. -/
def scenario (tenant : Json) : Action (List Json) :=
  documents tenant scenarioCollection

/-- Keep script lines of a tenant. -/
def saveScenario (tenant lines : Json) : Action Unit := do
  write tenant scenarioCollection (← identified DocumentId.ofLine lines)

/-- The character records of a tenant. -/
def characters (tenant : Json) : Action (List Json) :=
  documents tenant characterCollection

/-- Keep character records of a tenant. -/
def saveCharacters (tenant records : Json) : Action Unit := do
  write tenant characterCollection (← identified DocumentId.ofCharacter records)

/-! ## Saves -/

/-- A new save code. -/
def newCode : Action String := do
  let store ← get
  let (code, left) := SaveCode.generate SaveCode.length store.draws
  set { store with draws := left }
  return code

/-- Keep a save under a new code, stamped with the time.  An older save with the same
code is replaced. -/
def createSave (tenant data : Json) : Action String := do
  let code ← newCode
  match data with
  | .obj fields =>
    let stamp := Json.str (← get).clock.text
    write tenant saveCollection
      (.obj [(code, .obj (OrderedMap.put "createdAt" stamp fields))])
    return code
  | _ => throw .notAnObject

/-- The save under a code, if there is one.  There is none under a text that is no key. -/
def save? (tenant code : Json) : Action (Option Json) :=
  match Key.isKeyValue code with
  | .ok true => document? tenant saveCollection code
  | .ok false => return none
  | .error fault => throw (.key fault)

end Store

end VisualNovel
