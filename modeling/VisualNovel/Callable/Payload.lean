import VisualNovel.Record.Dump
import VisualNovel.Record.Scalar

/-!
# Payloads of the callables

The four callables take their arguments as a record, either bare or in an envelope, an
object whose field `data` is the record.  Any argument may be absent here; whether it
may be missing is for the callable to say.
-/

namespace VisualNovel

/-- The record in an envelope; what is no envelope is the record itself. -/
def unwrapped : Json → Json
  | .obj fields =>
    match OrderedMap.at? "data" fields with
    | some (.obj payload) => .obj payload
    | _ => .obj fields
  | value => value

/-- A record in an envelope or bare. -/
def Reader.payload {α : Type} (read : Fields → Checked α) : Reader α :=
  fun value => Reader.record read (unwrapped value)

namespace Payload

namespace Part

/-- The tenant. -/
def tenant : Field := ⟨"tenant_id", "tenantId"⟩

/-- The name of a script. -/
def scenario : Field := ⟨"scenario_name", "scenarioName"⟩

/-- The data of a save. -/
def saveData : Field := ⟨"save_data", "saveData"⟩

/-- The code of a save. -/
def saveCode : Field := ⟨"save_code", "saveCode"⟩

end Part

/-- A text that may be absent. -/
def text (field : Field) : Fields → Checked (Option String) :=
  field.optional none (Reader.nullable Reader.text)

/-- An object that may be absent, with any values in it. -/
def object (field : Field) : Fields → Checked (Option Fields) :=
  field.optional none (Reader.nullable (Reader.map Checked.accepted))

/-- An object that may be absent, as a value. -/
def objectValue : Option Fields → Json
  | none => .null
  | some fields => .obj fields

end Payload

/-- The arguments of `getScenario`. -/
structure ScenarioRequest where
  tenant : Option String
  scenario : Option String
  deriving DecidableEq, Repr

/-- The arguments of `getCharacters`. -/
structure CharactersRequest where
  tenant : Option String
  deriving DecidableEq, Repr

/-- The arguments of `saveGame`. -/
structure SaveRequest where
  tenant : Option String
  data : Option Fields
  deriving DecidableEq

/-- The arguments of `loadGame`. -/
structure LoadRequest where
  tenant : Option String
  code : Option String
  deriving DecidableEq, Repr

/-- The arguments of `getScenario`. -/
def ScenarioRequest.read : Reader ScenarioRequest :=
  Reader.payload fun fields =>
    ScenarioRequest.mk <$> Payload.text Payload.Part.tenant fields
      <*> Payload.text Payload.Part.scenario fields

/-- The arguments of `getScenario` as a record. -/
def ScenarioRequest.toJson (style : Dump) (request : ScenarioRequest) : Json :=
  style.record
    [(Payload.Part.tenant, Dump.optionalText request.tenant),
     (Payload.Part.scenario, Dump.optionalText request.scenario)]

/-- The arguments of `getCharacters`. -/
def CharactersRequest.read : Reader CharactersRequest :=
  Reader.payload fun fields =>
    CharactersRequest.mk <$> Payload.text Payload.Part.tenant fields

/-- The arguments of `getCharacters` as a record. -/
def CharactersRequest.toJson (style : Dump) (request : CharactersRequest) : Json :=
  style.record [(Payload.Part.tenant, Dump.optionalText request.tenant)]

/-- The arguments of `saveGame`. -/
def SaveRequest.read : Reader SaveRequest :=
  Reader.payload fun fields =>
    SaveRequest.mk <$> Payload.text Payload.Part.tenant fields
      <*> Payload.object Payload.Part.saveData fields

/-- The arguments of `saveGame` as a record. -/
def SaveRequest.toJson (style : Dump) (request : SaveRequest) : Json :=
  style.record
    [(Payload.Part.tenant, Dump.optionalText request.tenant),
     (Payload.Part.saveData, Payload.objectValue request.data)]

/-- The arguments of `loadGame`. -/
def LoadRequest.read : Reader LoadRequest :=
  Reader.payload fun fields =>
    LoadRequest.mk <$> Payload.text Payload.Part.tenant fields
      <*> Payload.text Payload.Part.saveCode fields

/-- The arguments of `loadGame` as a record. -/
def LoadRequest.toJson (style : Dump) (request : LoadRequest) : Json :=
  style.record
    [(Payload.Part.tenant, Dump.optionalText request.tenant),
     (Payload.Part.saveCode, Dump.optionalText request.code)]

end VisualNovel
