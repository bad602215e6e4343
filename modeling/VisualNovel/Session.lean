import VisualNovel.Stage.Basic

/-!
# Sessions

A session is one player's place in a story.  Of all its parts only the player's name
and the line are kept in a save.
-/

namespace VisualNovel

/-- One player's place in a story. -/
structure Session where
  tenant : String
  player : String := ""
  /-- The number of script lines that have been played.  A line below zero, which no
  record holds, counts from the end of the script. -/
  line : Int := 0
  catalog : Catalog := {}
  stage : Stage := {}
  deriving DecidableEq, Repr

namespace Session

namespace Part

/-- The tenant. -/
def tenant : Field := .plain "tenant_id"

/-- The name of the player. -/
def player : Field := .plain "player_name"

/-- The line. -/
def line : Field := .plain "current_line"

/-- The catalog. -/
def catalog : Field := .plain "catalog"

/-- The stage. -/
def stage : Field := .plain "stage"

end Part

/-- A session. -/
def read : Reader Session :=
  Reader.record fun fields =>
    (fun tenant player (line : Nat) => Session.mk tenant player line)
      <$> Part.tenant.required Reader.text fields
      <*> Part.player.optional "" Reader.text fields
      <*> Part.line.optional 0 Reader.natural fields
      <*> Part.catalog.optional {} Catalog.read fields
      <*> Part.stage.optional {} Stage.read fields

/-- The session as a record. -/
def toJson (style : Dump) (session : Session) : Json :=
  style.record
    [(Part.tenant, .str session.tenant), (Part.player, .str session.player),
     (Part.line, .int session.line), (Part.catalog, session.catalog.toJson style),
     (Part.stage, session.stage.toJson style)]

/-- The script of the story. -/
def commands (session : Session) : List Command := session.catalog.commands

/-- The commands that come up, if the line is one to play from: those of the script from
the line on, and the whole script once more after the lines that are counted from its
end. -/
def upcoming? (session : Session) : Option (List Command) :=
  match session.line with
  | .ofNat line => some (session.commands.drop line)
  | .negSucc before =>
    if before < session.commands.length then
      some (session.commands.drop (session.commands.length - (before + 1)) ++
        session.commands)
    else none

end Session

end VisualNovel
