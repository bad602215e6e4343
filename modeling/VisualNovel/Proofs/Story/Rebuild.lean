import VisualNovel.Proofs.Story.NextPause

/-!
# Rebuilding the stage

To take up a story, the stage before a line is built anew, on an empty one.  Nothing that was played
before matters for it: the stage and the events come from the commands before the line, the
characters and the resolver (`SameBasis`).  A target before the script stands for its beginning, and
one beyond it for its end.

The stage before a line can be built in pieces: from the one before an earlier line, the stage
commands in between lead to it.
-/

namespace VisualNovel

namespace Interpreter

/-- The commands of the script before a target. -/
def commandsBefore (story : Interpreter) (target : Int) : List Command :=
  story.session.commands.take (max 0 (min target story.session.commands.length)).toNat

/-- The story with another stage. -/
def withStage (story : Interpreter) (stage : Stage) : Interpreter :=
  { story with session := { story.session with stage := stage } }

/-- Is everything the same that the stage before a target of one story, and the stage before a
target of another, are built from? -/
structure SameBasis (story : Interpreter) (target : Int) (other : Interpreter)
    (otherTarget : Int) : Prop where
  resolver_eq : story.resolver = other.resolver
  characters_eq : story.session.catalog.characters = other.session.catalog.characters
  commands_eq : story.commandsBefore target = other.commandsBefore otherTarget

variable {story other : Interpreter} {target otherTarget : Int}

theorem commandsBefore_eq (story : Interpreter) (target : Int) :
    story.commandsBefore target = story.session.commands.take target.toNat := by
  have hplace : (max 0 (min target story.session.commands.length)).toNat =
      min target.toNat story.session.commands.length := by omega
  rw [commandsBefore, hplace, List.take_eq_take_iff, Nat.min_assoc, Nat.min_self]

theorem rebuildStage_eq (story : Interpreter) (target : Int) :
    story.rebuildStage target =
      let built := Stage.empty.applyAll story.session.catalog story.resolver
        (story.commandsBefore target)
      (story.withStage built.1, { events := built.2 }) := by
  rw [commandsBefore_eq]
  rfl

/-- Rebuilding comes to the same on the same basis. -/
theorem SameBasis.applyAll_eq (hbasis : SameBasis story target other otherTarget) (stage : Stage) :
    stage.applyAll story.session.catalog story.resolver (story.commandsBefore target) =
      stage.applyAll other.session.catalog other.resolver (other.commandsBefore otherTarget) := by
  rw [hbasis.commands_eq, hbasis.resolver_eq]
  refine Stage.applyAll_congr (fun character expression => ?_) stage _
  rw [Catalog.portraitAddress, Catalog.portraitAddress, hbasis.characters_eq]

/-- The commands before a line are those before an earlier one, and those in between. -/
theorem commandsBefore_split {first last : Nat} (hle : first ≤ last) :
    story.commandsBefore last =
      story.commandsBefore first ++ Command.segment story.session.commands first last := by
  rw [commandsBefore_eq, commandsBefore_eq, Int.toNat_natCast, Int.toNat_natCast, Command.segment]
  calc story.session.commands.take last
      = (story.session.commands.take last).take first ++
          (story.session.commands.take last).drop first := (List.take_append_drop ..).symm
    _ = story.session.commands.take first ++ (story.session.commands.take last).drop first := by
          rw [List.take_take, Nat.min_eq_left hle]

end Interpreter

end VisualNovel
