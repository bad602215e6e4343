import VisualNovel.Script.Placeholder
import VisualNovel.Session
import VisualNovel.Stage.Change
import VisualNovel.Text.Quoted

/-!
# Playing a story

The interpreter goes through the script command by command.  Commands that change what
the player reads (`text` and `img_show`) pause the story until the player goes on;
all others are carried out on the way.  A call of `advance` runs up to and including
the next pausing command, or to the end of the script.

`start` begins a story, and takes up one that was saved: it rebuilds the stage by
carrying out the stage commands before the line of the session, and then advances.
Dialogue and images before that line are not shown again.

A call fails at a command that needs the address of an image when there is none, and if the line
lies before the script.  `tryStart`, `tryAdvance` and `tryRebuildStage` are the calls with their
failures; `start`, `advance` and `rebuildStage` are what they come to otherwise.
-/

namespace VisualNovel

/-- How far a story has got. -/
inductive Phase where
  | idle | running | ended
  deriving DecidableEq, Repr

/-- The word for a phase. -/
def Phase.word : Phase → String
  | idle => "idle"
  | running => "running"
  | ended => "ended"

/-- A command of a kind that is not known, at its place in the script. -/
structure Warning where
  kind : String
  line : Int
  deriving DecidableEq, Repr

/-- The text of a warning. -/
def Warning.message (warning : Warning) : String :=
  "Unknown command " ++ Text.quoted warning.kind ++ " at line " ++ toString warning.line ++
    " skipped"

/-- What a call of the interpreter tells: events for the player, warnings for the
author. -/
structure Report where
  events : List Event := []
  warnings : List Warning := []
  /-- Was there no command to carry out, as the line lies before the script? -/
  stray : Bool := false
  deriving DecidableEq, Repr

namespace Report

/-- One report after the other. -/
def append (first second : Report) : Report :=
  ⟨first.events ++ second.events, first.warnings ++ second.warnings,
    first.stray || second.stray⟩

instance : Append Report := ⟨append⟩

@[simp] theorem events_append (first second : Report) :
    (first ++ second).events = first.events ++ second.events := rfl

@[simp] theorem warnings_append (first second : Report) :
    (first ++ second).warnings = first.warnings ++ second.warnings := rfl

@[simp] theorem stray_append (first second : Report) :
    (first ++ second).stray = (first.stray || second.stray) := rfl

end Report

/-- Why a call of the interpreter fails. -/
inductive StoryFault where
  /-- The line lies before the script. -/
  | stray
  /-- There is no address for an image. -/
  | unencodable (fault : Text.Unencodable)
  deriving DecidableEq, Repr

/-- The text of a failure. -/
def StoryFault.message : StoryFault → String
  | stray => "list index out of range"
  | unencodable fault => fault.message

/-- Does the instruction pause the story? -/
def Instruction.pauses : Instruction → Bool
  | .say _ _ => true
  | .showImage _ => true
  | _ => false

/-- A story that is being played. -/
structure Interpreter where
  resolver : Resolver
  session : Session
  phase : Phase := .idle
  deriving DecidableEq, Repr

/-! ## Single commands -/

namespace Session

/-- The name that is shown for a speaker: none for the narrator, the name of a character
of the cast, or else the id itself. -/
def speakerName (session : Session) (speaker : String) : String :=
  if speaker = narrator then ""
  else
    let known := OrderedMap.at? speaker session.catalog.characters
    Placeholder.fill session.player ((known.map Character.name).getD speaker)

/-- What the player sees when somebody says something. -/
def dialogue (session : Session) (speaker text : String) : Event :=
  .dialogue speaker (session.speakerName speaker) (Placeholder.fill session.player text)
    ((OrderedMap.keys session.stage.portraits).filter fun character => character ≠ speaker)

/-- Carry out a command: the session afterwards, and what is told. -/
def execute (resolver : Resolver) (session : Session) (line : Int) (command : Command) :
    Session × Report :=
  match command.instruction with
  | .say speaker text => (session, { events := [session.dialogue speaker text] })
  | .showImage image => (session, { events := [.overlayShown (resolver.background image)] })
  | .hideImage => (session, { events := [.overlayHidden] })
  | .unknown => (session, { warnings := [⟨command.kind, line⟩] })
  | instruction =>
    let (stage, event) := session.stage.follow session.catalog resolver instruction
    ({ session with stage := stage }, { events := event.toList })

/-- Carry out the given commands, the first of them at the line of the session, until one
pauses.  The last part of the answer says whether one did. -/
def run (resolver : Resolver) (session : Session) : List Command → Session × Report × Bool
  | [] => (session, {}, false)
  | command :: rest =>
    let (changed, report) := session.execute resolver session.line command
    let moved := { changed with line := session.line + 1 }
    if command.instruction.pauses then (moved, report, true)
    else
      let (last, more, paused) := moved.run resolver rest
      (last, report ++ more, paused)

/-- The session when a command is given up. -/
def interrupted (session : Session) (command : Command) : Session :=
  { session with
    stage := session.stage.interrupted command.instruction
    line := session.line + 1 }

/-- Carry out the given commands until one pauses, if all can be carried out. -/
def tryRun (resolver : Resolver) (session : Session) :
    List Command → Session × Except Text.Unencodable (Report × Bool)
  | [] => (session, .ok ({}, false))
  | command :: rest =>
    match command.instruction.fault? session.catalog with
    | some fault => (session.interrupted command, .error fault)
    | none =>
      let (changed, report) := session.execute resolver session.line command
      let moved := { changed with line := session.line + 1 }
      if command.instruction.pauses then (moved, .ok (report, true))
      else
        let (last, outcome) := moved.tryRun resolver rest
        (last, outcome.map fun (more, paused) => (report ++ more, paused))

end Session

/-! ## Entry points -/

namespace Interpreter

/-- A story that has not begun. -/
def idle (resolver : Resolver) (session : Session) : Interpreter :=
  { resolver := resolver, session := session }

/-- The story with a name for its player. -/
def named (name : String) (interpreter : Interpreter) : Interpreter :=
  { interpreter with session := { interpreter.session with player := name } }

/-- The story after a run of commands that paused, or came to the end of the script. -/
def halted (interpreter : Interpreter) (last : Session) (report : Report) (paused : Bool) :
    Interpreter × Report :=
  if paused then
    ({ interpreter with session := last, phase := .running }, report)
  else
    ({ interpreter with session := last, phase := .ended },
      report ++ { events := [.storyEnd] })

/-- Carry out the commands that come up until one pauses or the script is over. -/
def follow (interpreter : Interpreter) (upcoming : List Command) : Interpreter × Report :=
  let (last, report, paused) := interpreter.session.run interpreter.resolver upcoming
  interpreter.halted last report paused

/-- Carry out commands until one pauses or the script is over.  Before the script there
are none. -/
def advance (interpreter : Interpreter) : Interpreter × Report :=
  match interpreter.phase with
  | .ended => (interpreter, {})
  | _ =>
    match interpreter.session.upcoming? with
    | some upcoming => interpreter.follow upcoming
    | none => ({ interpreter with phase := .running }, { stray := true })

/-- Set the stage as it stands before the command at `target`; the line stays. -/
def rebuildStage (target : Int) (interpreter : Interpreter) : Interpreter × Report :=
  let session := interpreter.session
  let (stage, events) := Stage.empty.applyAll session.catalog interpreter.resolver
    (session.commands.take target.toNat)
  ({ interpreter with session := { session with stage := stage } }, { events := events })

/-- Begin the story, or take it up at the line of the session. -/
def start (interpreter : Interpreter) : Interpreter × Report :=
  let session := interpreter.session
  let line : Int := min session.line session.commands.length
  let placed := { interpreter with session := { session with line := line } }
  if 0 < line then
    let (rebuilt, before) := placed.rebuildStage line
    let (advanced, after) := rebuilt.advance
    (advanced, before ++ after)
  else placed.advance

/-! ## Entry points that fail -/

/-- Carry out commands until one pauses or the script is over, if all can be carried out.  The
story is running while they are. -/
def tryAdvance (interpreter : Interpreter) : Interpreter × Except StoryFault Report :=
  match interpreter.phase with
  | .ended => (interpreter, .ok {})
  | _ =>
    match interpreter.session.upcoming? with
    | none => ({ interpreter with phase := .running }, .error .stray)
    | some upcoming =>
      match interpreter.session.tryRun interpreter.resolver upcoming with
      | (last, .error fault) =>
        ({ interpreter with session := last, phase := .running }, .error (.unencodable fault))
      | (last, .ok (report, paused)) =>
        let (next, told) := interpreter.halted last report paused
        (next, .ok told)

/-- Set the stage as it stands before the command at `target`, if all commands before it that
change the stage can be carried out. -/
def tryRebuildStage (target : Int) (interpreter : Interpreter) :
    Interpreter × Except StoryFault Report :=
  let session := interpreter.session
  let (stage, outcome) := Stage.empty.tryApplyAll session.catalog interpreter.resolver
    (session.commands.take target.toNat)
  ({ interpreter with session := { session with stage := stage } },
    match outcome with
    | .error fault => .error (.unencodable fault)
    | .ok events => .ok { events := events })

/-- Begin the story, or take it up at the line of the session, if all that takes can be carried
out. -/
def tryStart (interpreter : Interpreter) : Interpreter × Except StoryFault Report :=
  let session := interpreter.session
  let line : Int := min session.line session.commands.length
  let placed := { interpreter with session := { session with line := line } }
  if 0 < line then
    match placed.tryRebuildStage line with
    | (rebuilt, .error fault) => (rebuilt, .error fault)
    | (rebuilt, .ok before) =>
      let (advanced, outcome) := rebuilt.tryAdvance
      (advanced, outcome.map fun after => before ++ after)
  else placed.tryAdvance

end Interpreter

end VisualNovel
