import VisualNovel.Stage.Event

/-!
# Changing the stage

Three kinds of commands change the stage: another background, a character shown, a
character hidden.  All ways of playing a story, from the start or from the middle,
change the stage by `Stage.tryApply`.

A command that needs the address of an image cannot be carried out when there is none
(`Instruction.fault?`).  It is given up then, with the commands after it.  All other commands
change the stage as `Stage.apply` says.
-/

namespace VisualNovel

/-- Does the instruction change the stage? -/
def Instruction.changesStage : Instruction → Bool
  | .changeBackground _ => true
  | .showCharacter _ _ _ => true
  | .hideCharacter _ => true
  | _ => false

/-- Why the stage cannot be changed by the instruction, if it cannot. -/
def Instruction.stageFault? (catalog : Catalog) : Instruction → Option Text.Unencodable
  | .changeBackground background => Resolver.backgroundFault? background
  | .showCharacter character expression _ => catalog.portraitFault? character expression
  | _ => none

/-- Why the instruction cannot be carried out, if it cannot. -/
def Instruction.fault? (catalog : Catalog) : Instruction → Option Text.Unencodable
  | .showImage image => Resolver.backgroundFault? image
  | instruction => instruction.stageFault? catalog

namespace Stage

/-- The stage when an instruction is given up.  There is another background before its address
is asked for. -/
def interrupted (stage : Stage) : Instruction → Stage
  | .changeBackground background => { stage with background := some background }
  | _ => stage

/-- The stage after an instruction, and the event that tells of it.  Hiding a character
that is not there changes nothing. -/
def follow (catalog : Catalog) (resolver : Resolver) (stage : Stage) :
    Instruction → Stage × Option Event
  | .changeBackground background =>
    ({ stage with background := some background },
      some (.background background (resolver.background background)))
  | .showCharacter character expression position =>
    let address := catalog.portraitAddress resolver character expression
    ({ stage with
        portraits := OrderedMap.put character ⟨expression, position, address⟩ stage.portraits },
      some (.portraitShown character expression position address))
  | .hideCharacter character =>
    match OrderedMap.at? character stage.portraits with
    | none => (stage, none)
    | some _ =>
      ({ stage with portraits := OrderedMap.remove character stage.portraits },
        some (.portraitHidden character))
  | _ => (stage, none)

/-- The stage after a command, and the event that tells of it. -/
def apply (catalog : Catalog) (resolver : Resolver) (stage : Stage) (command : Command) :
    Stage × Option Event :=
  stage.follow catalog resolver command.instruction

/-- The stage after some commands, and the events that tell of them. -/
def applyAll (catalog : Catalog) (resolver : Resolver) (stage : Stage) :
    List Command → Stage × List Event
  | [] => (stage, [])
  | command :: rest =>
    let (changed, event) := stage.apply catalog resolver command
    let (last, events) := changed.applyAll catalog resolver rest
    (last, event.toList ++ events)

/-- The stage after a command, and the event that tells of it, if it can be carried out. -/
def tryApply (catalog : Catalog) (resolver : Resolver) (stage : Stage) (command : Command) :
    Stage × Except Text.Unencodable (Option Event) :=
  match command.instruction.stageFault? catalog with
  | some fault => (stage.interrupted command.instruction, .error fault)
  | none =>
    let (changed, event) := stage.apply catalog resolver command
    (changed, .ok event)

/-- The stage after some commands, and the events that tell of them, if all can be carried
out. -/
def tryApplyAll (catalog : Catalog) (resolver : Resolver) (stage : Stage) :
    List Command → Stage × Except Text.Unencodable (List Event)
  | [] => (stage, .ok [])
  | command :: rest =>
    match stage.tryApply catalog resolver command with
    | (changed, .error fault) => (changed, .error fault)
    | (changed, .ok event) =>
      let (last, outcome) := changed.tryApplyAll catalog resolver rest
      (last, outcome.map fun events => event.toList ++ events)

end Stage

end VisualNovel
