import VisualNovel.Client.Catalog
import VisualNovel.Save.Data
import VisualNovel.Session

/-!
# Saving and restoring progress

A save sends the name of the player and the line of the session, and comes back with a
code.  Restoring first fetches the save and checks it; the session is changed only when
nothing can go wrong any more.
-/

namespace VisualNovel

namespace Session

/-- What a save keeps of the session; a line below zero cannot be saved. -/
def progress (session : Session) : Except Refusal SaveData :=
  (SaveData.read (.obj [(SaveData.Part.player.name, .str session.player),
    (SaveData.Part.line.name, .int session.line)])).require "SaveData"

/-- The session at the place of a save. -/
def resumedAt (session : Session) (data : SaveData) : Session :=
  { session with player := data.player, line := data.line }

end Session

/-- The code in a reply.  It is passed on as it came, unless it stands for nothing. -/
def codeOfReply (reply : Json) : Except ClientFault Json := do
  let code ← replyField "saveCode" .null reply
  if code.isTruthy then .ok code
  else .error (.gateway (.internal "saveGame returned no save code"))

/-- Save the progress of a session, and come back with the code. -/
def saveProgress {σ : Type} (gateway : Gateway σ) (session : Session) :
    StateM σ (Except ClientFault Json) := do
  match session.progress with
  | .error refusal => return .error (.refused refusal)
  | .ok progress =>
    let reply ← gateway.call "saveGame"
      (.obj [("tenantId", .str session.tenant), ("saveData", progress.toJson .wire)])
    return reply.bind codeOfReply

/-- The data of a save in a reply. -/
def saveOfReply (reply : Json) : Except ClientFault SaveData := do
  match ← replyField "saveData" .null reply with
  | .obj fields =>
    ((SaveData.read (.obj fields)).require "SaveData").mapError fun refusal =>
      .gateway { GatewayFault.internal "malformed save data" with cause := some (.invalid refusal) }
  | _ => .error (.gateway (.internal "loadGame returned no save data"))

/-- Fetch a save of a tenant. -/
def loadProgress {σ : Type} (gateway : Gateway σ) (tenant code : String) :
    StateM σ (Except ClientFault SaveData) := do
  let reply ← gateway.call "loadGame"
    (.obj [("tenantId", .str tenant), ("saveCode", .str code)])
  return reply.bind saveOfReply

/-- Take a session to the place of a save.  The answer holds the save and the session at
its place. -/
def restoreProgress {σ : Type} (gateway : Gateway σ) (session : Session) (code : String) :
    StateM σ (Except ClientFault (SaveData × Session)) := do
  match ← loadProgress gateway session.tenant code with
  | .ok data => return .ok (data, session.resumedAt data)
  | .error fault => return .error fault

end VisualNovel
