import VisualNovel.Catalog
import VisualNovel.Gateway.Basic

/-!
# Loading a catalog

The script and the cast are asked for together, and both are needed: a session never
starts with a part of a catalog.
-/

namespace VisualNovel

/-- The field of a reply; a reply without fields is at fault. -/
def replyField (name : String) (absent : Json) : Json → Except ClientFault Json
  | .obj fields => .ok ((OrderedMap.at? name fields).getD absent)
  | _ => .error .notAnObject

/-- The failure for records that are at fault. -/
def malformedRecords (cause : CollectionFault) : ClientFault :=
  .gateway { GatewayFault.internal "malformed catalog records" with cause := some cause }

/-- The catalog in the replies of the two callables.  The script is examined first. -/
def catalogOfReplies (scenario characters : Json) : Except ClientFault Catalog := do
  let lines ← replyField "scenario" (.arr []) scenario
  let commands ← (Command.script lines).mapError malformedRecords
  let records ← replyField "characters" (.arr []) characters
  let cast ← (Cast.ofCollection records).mapError malformedRecords
  return ⟨commands, cast⟩

/-- Load the catalog of a tenant. -/
def loadCatalog {σ : Type} (gateway : Gateway σ) (tenant scenario : String) :
    StateM σ (Except ClientFault Catalog) := do
  let scenarioReply ← gateway.call "getScenario"
    (.obj [("tenantId", .str tenant), ("scenarioName", .str scenario)])
  let charactersReply ← gateway.call "getCharacters" (.obj [("tenantId", .str tenant)])
  match scenarioReply, charactersReply with
  | .error fault, _ => return .error fault
  | _, .error fault => return .error fault
  | .ok scenario, .ok characters => return catalogOfReplies scenario characters

end VisualNovel
