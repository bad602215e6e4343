import VisualNovel.Cast
import VisualNovel.Script.Command
import VisualNovel.Store.Import

/-!
# The demo story

A short story to try the program with.  Making it anew removes all that its tenant had.
-/

namespace VisualNovel.Demo

variable [Json.Room]

/-- The tenant of the demo story. -/
def tenant : String := "demo"

/-- The cast of the demo story. -/
def records : List CharacterRecord :=
  [⟨"mika", "Mika", "neutral", "https://picsum.photos/seed/mika-neutral/400/600"⟩,
   ⟨"mika", "Mika", "smile", "https://picsum.photos/seed/mika-smile/400/600"⟩,
   ⟨"ren", "Ren", "neutral", "https://picsum.photos/seed/ren-neutral/400/600"⟩,
   ⟨"player", "%PLAYER_NAME%", "neutral", ""⟩]

/-- The kinds and the texts of the script lines. -/
def lines : List (String × String × String × String) :=
  [("bg_change", "station", "", ""),
   ("text", "narrator", "The last train of the night pulls away from the platform.", ""),
   ("char_show", "mika", "neutral", "left"),
   ("text", "mika", "You made it, %PLAYER_NAME%. I was starting to worry.", ""),
   ("text", "player", "Sorry. The shop ran late again.", ""),
   ("char_show", "ren", "neutral", "right"),
   ("text", "ren", "So this is the new hire Mika keeps talking about.", ""),
   ("char_show", "mika", "smile", "left"),
   ("text", "mika", "Be nice, Ren. %PLAYER_NAME% is going to save our quarter.", ""),
   ("img_show", "sales_chart", "", ""),
   ("img_hide", "", "", ""),
   ("char_hide", "ren", "", ""),
   ("bg_change", "office", "", ""),
   ("text", "narrator", "The next morning, the office is already humming.", ""),
   ("text", "mika", "Ready? Let's get to work.", "")]

/-- The script of the demo story, numbered from one. -/
def script : List Command :=
  lines.mapIdx fun index (kind, param1, param2, param3) =>
    ⟨(index : Int) + 1, kind, param1, param2, param3⟩

/-- The cast as records. -/
def characters : Json :=
  .arr (records.map (CharacterRecord.toJson ⟨true, true⟩))

/-- The script as records. -/
def scenario : Json :=
  .arr (script.map (Command.toJson .inside))

/-- Make the demo story anew. -/
def create : Store.Action Unit := do
  let directory := (← Store.tenants).child tenant
  if ← Store.ask fun files => files.isThere directory then
    Store.change fun files => files.removeDirectory directory
  let _ ← Store.importCharacters (.str tenant) characters
  let _ ← Store.importScenario (.str tenant) scenario

end VisualNovel.Demo
