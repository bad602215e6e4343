import VisualNovel.Callable.Payload
import VisualNovel.Store.Collections

/-!
# The callables

A client talks to the backend through four callables:

```text
getScenario    tenantId, scenarioName   the script lines
getCharacters  tenantId                 the character records
saveGame       tenantId, saveData       a new save code
loadGame       tenantId, saveCode       the data of a save
```

A call whose arguments are incomplete or malformed is rejected before the store is
touched.  A code that no save has is not found, whatever it looks like.
-/

namespace VisualNovel

/-- The kinds of failures that a client is told of. -/
inductive ErrorKind where
  | invalidArgument | notFound | unavailable | internal
  deriving DecidableEq, Repr

/-- The word for a kind of failure. -/
def ErrorKind.word : ErrorKind → String
  | invalidArgument => "invalid-argument"
  | notFound => "not-found"
  | unavailable => "unavailable"
  | internal => "internal"

/-- Why a call is rejected. -/
inductive Rejection where
  /-- The payload is not a record with arguments of the right kinds. -/
  | malformedPayload
  /-- The tenant or the name of the script is missing. -/
  | scenarioArguments
  /-- The tenant is missing. -/
  | charactersArguments
  /-- The tenant or the data is missing. -/
  | saveArguments
  /-- The tenant or the code is missing. -/
  | loadArguments
  /-- The tenant is no key. -/
  | malformedTenant
  /-- No save has the code. -/
  | noSave
  deriving DecidableEq, Repr

namespace Rejection

/-- The kind of failure that a rejection is. -/
def kind : Rejection → ErrorKind
  | noSave => .notFound
  | _ => .invalidArgument

/-- The message about a rejection. -/
def message : Rejection → String
  | malformedPayload => "Malformed request payload."
  | scenarioArguments => "tenantId and scenarioName are required."
  | charactersArguments => "tenantId is required."
  | saveArguments => "tenantId and saveData are required."
  | loadArguments => "tenantId and saveCode are required."
  | malformedTenant => "tenantId is malformed."
  | noSave => "Save data not found."

end Rejection

/-- What becomes of a call. -/
inductive Outcome where
  | answered (reply : Json)
  | rejected (reason : Rejection)
  | failed (fault : StoreFault)
  deriving DecidableEq

/-- The callables. -/
inductive Callable where
  | getScenario | getCharacters | saveGame | loadGame
  deriving DecidableEq, Repr

namespace Callable

variable [Json.Room]

/-- The name of a callable. -/
def name : Callable → String
  | getScenario => "getScenario"
  | getCharacters => "getCharacters"
  | saveGame => "saveGame"
  | loadGame => "loadGame"

/-- All callables. -/
def all : List Callable := [getScenario, getCharacters, saveGame, loadGame]

/-- The callable with a name. -/
def ofName? (name : String) : Option Callable :=
  all.find? fun callable => callable.name = name

/-- A text argument that is there and not empty. -/
def argument? : Option String → Option String
  | some "" => none
  | argument => argument

/-- What becomes of a call that comes down to an action of the store. -/
def perform (action : Store.Action Outcome) : StateM Store Outcome := do
  match ← action.run with
  | .ok outcome => return outcome
  | .error fault => return .failed fault

/-- Perform an action for a tenant, unless it is no key. -/
def performFor (tenant : String) (action : Store.Action Outcome) : StateM Store Outcome :=
  if Key.isKey tenant then perform action else return .rejected .malformedTenant

/-- A reply with one field. -/
def reply (name : String) (value : Json) : Outcome := .answered (.obj [(name, value)])

/-- The script lines of a tenant; the name of the script has to be given, and is not used. -/
def scenario (request : ScenarioRequest) : StateM Store Outcome :=
  match argument? request.tenant, argument? request.scenario with
  | some tenant, some _ =>
    performFor tenant do return reply "scenario" (.arr (← Store.scenario (.str tenant)))
  | _, _ => return .rejected .scenarioArguments

/-- The character records of a tenant. -/
def characters (request : CharactersRequest) : StateM Store Outcome :=
  match argument? request.tenant with
  | some tenant =>
    performFor tenant do return reply "characters" (.arr (← Store.characters (.str tenant)))
  | none => return .rejected .charactersArguments

/-- Keep a save. -/
def save (request : SaveRequest) : StateM Store Outcome :=
  match argument? request.tenant, request.data with
  | some tenant, some data =>
    performFor tenant do
      return reply "saveCode" (.str (← Store.createSave (.str tenant) (.obj data)))
  | _, _ => return .rejected .saveArguments

/-- Look up a save. -/
def load (request : LoadRequest) : StateM Store Outcome :=
  match argument? request.tenant, argument? request.code with
  | some tenant, some code =>
    performFor tenant do
      match ← Store.save? (.str tenant) (.str code) with
      | some .null => return .rejected .noSave
      | some data => return reply "saveData" data
      | none => return .rejected .noSave
  | _, _ => return .rejected .loadArguments

/-- Check the payload of a call, and go on if it is accepted. -/
def received {α : Type} (read : Reader α) (serve : α → StateM Store Outcome)
    (payload : Json) : StateM Store Outcome :=
  match read payload with
  | .accepted request => serve request
  | .refused _ => return .rejected .malformedPayload

/-- Serve a call. -/
def serve : Callable → Json → StateM Store Outcome
  | getScenario => received ScenarioRequest.read scenario
  | getCharacters => received CharactersRequest.read characters
  | saveGame => received SaveRequest.read save
  | loadGame => received LoadRequest.read load

end Callable

end VisualNovel
