import VisualNovel.Record.Dump
import VisualNovel.Record.Scalar

/-!
# What is saved

A save keeps the name of the player and the line; the store adds when it was made.
The player is given a slip with the code under which the save is found again.
-/

namespace VisualNovel

/-- What a save keeps of a session. -/
structure SaveData where
  player : String
  line : Nat
  createdAt : Option String := none
  deriving DecidableEq, Repr

namespace SaveData

namespace Part

/-- The name of the player. -/
def player : Field := ⟨"player_name", "playerName"⟩

/-- The line. -/
def line : Field := ⟨"current_line", "currentLine"⟩

/-- When the save was made. -/
def createdAt : Field := ⟨"created_at", "createdAt"⟩

end Part

/-- The data of a save. -/
def read : Reader SaveData :=
  Reader.record fun fields =>
    SaveData.mk <$> Part.player.required Reader.text fields
      <*> Part.line.required Reader.natural fields
      <*> Part.createdAt.optional none (Reader.nullable Reader.text) fields

/-- The data of a save as a record. -/
def toJson (style : Dump) (data : SaveData) : Json :=
  style.record
    [(Part.player, .str data.player), (Part.line, .int data.line),
     (Part.createdAt, Dump.optionalText data.createdAt)]

end SaveData

namespace SaveSlip

/-- The text of the slip for a save. -/
def text (code tenant : String) : String :=
  "[Save data]\n" ++ "Tenant: " ++ tenant ++ "\n" ++ "Code: " ++ code ++ "\n" ++
    "Enter this code to continue next time.\n"

/-- The name of the file with the slip. -/
def fileName (tenant : String) : String :=
  "save_" ++ tenant ++ ".txt"

end SaveSlip

end VisualNovel
