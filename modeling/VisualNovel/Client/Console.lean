import VisualNovel.Client.Progress
import VisualNovel.Files.Tree
import VisualNovel.Interpreter
import VisualNovel.Json.Display
import VisualNovel.Settings.Basic
import VisualNovel.Text.Blank

/-!
# Playing at a terminal

A story is shown line by line, and the player answers prompts: anything goes on to the
next line, `s` or `save` saves the progress, `q` or `quit` leaves the story.  Blanks
around an answer and capital letters do not matter.  When there are no more answers
the story is left as well.

A game goes from one answer to the next: `Console.opening` says what is shown
before the first answer, `Console.answered` what an answer changes.  A whole game is a function
of its answers and of the world behind the gateway; its transcript holds the lines that were
written and the prompts, in their order.
-/

namespace VisualNovel

/-- Something that happens at a terminal. -/
inductive TerminalEvent where
  | written (line : String)
  | prompted (text : String)
  deriving DecidableEq, Repr

/-- Why a slip cannot be written. -/
inductive SlipFault where
  /-- Its file cannot be written. -/
  | file (fault : FileFault)
  /-- Its text has no encoding. -/
  | unencodable (fault : Text.Unencodable)
  deriving DecidableEq

/-- The message about a fault. -/
def SlipFault.message : SlipFault → String
  | file fault => fault.message
  | unencodable fault => fault.message

/-- How a game ends. -/
inductive Ending where
  /-- With the code of an exit. -/
  | exited (code : Nat)
  /-- With a failure that the game cannot deal with. -/
  | failed (fault : ClientFault)
  /-- The story cannot be told any further. -/
  | untold (fault : StoryFault)
  /-- The slip for a save cannot be written. -/
  | slipFailed (fault : SlipFault)
  deriving DecidableEq

/-- Where a game stands. -/
inductive Situation where
  /-- The player of a story that has not begun is asked for a name. -/
  | naming (story : Interpreter)
  /-- The player reads a story that has begun and is not over. -/
  | reading (story : Interpreter)
  /-- Nothing is asked any more. -/
  | finished (ending : Ending)
  deriving DecidableEq

/-- The transcript of a game, and its end. -/
structure Game where
  transcript : List TerminalEvent
  ending : Ending
  deriving DecidableEq

/-- Where slips for saves are put: a name and a text come in, the path of the slip goes
out. -/
abbrev SlipBox (σ : Type) : Type := String → String → StateM σ (Except SlipFault String)

/-- A slip box in a directory of a tree of files.  A text without an encoding leaves an empty
file. -/
def slipsIn (directory : Path) : SlipBox FileTree := fun name text => do
  let path := directory.child name
  match Text.unencodable? path.text with
  | some fault => return .error (.unencodable fault)
  | none =>
    let fault? := Text.unencodable? text
    let content := if fault?.isSome then ByteArray.empty else text.toUTF8
    match (← get).writeFile path content with
    | .error fault => return .error (.file fault)
    | .ok files =>
      set files
      return (Text.guarded fault? path.text).mapError .unencodable

/-- What a game needs: settings, a gateway, and perhaps a box for the slips of saves. -/
structure Console (σ : Type) where
  settings : Settings
  gateway : Gateway σ
  slips : Option (SlipBox σ) := none

/-! ## Answers -/

/-- What a reader asks for by an answer. -/
inductive Choice where
  | quit | save | goOn
  deriving DecidableEq, Repr

/-- The answer without the blanks around it. -/
def strippedAnswer (answer : String) : String :=
  String.ofList (Text.trimmed Text.isBlank answer.toList)

/-- What a reader asks for. -/
def Choice.ofAnswer (answer : String) : Choice :=
  let word := (strippedAnswer answer).toLower
  if word = "q" ∨ word = "quit" then .quit
  else if word = "s" ∨ word = "save" then .save
  else .goOn

/-- Who plays: a new player, whose name is asked for if it is not given, or the player of
a save. -/
inductive Player where
  | new (name : Option String)
  | saved (code : String)
  deriving DecidableEq, Repr

/-- Who plays, by the name and the save code that are given; an empty text is none. -/
def Player.ofGiven (name code : Option String) : Player :=
  match code with
  | none | some "" => .new (if name = some "" then none else name)
  | some code => .saved code

namespace Situation

/-- The prompt for the next answer, if there is one. -/
def prompt? : Situation → Option String
  | naming _ => some "Your name: "
  | reading _ => some "> "
  | finished _ => none

/-- Where a game stands with a story that has begun. -/
def ofStory (story : Interpreter) : Situation :=
  if story.phase = .ended then finished (.exited 0) else reading story

end Situation

namespace Console

variable {σ : Type}

/-- The lines as they are written. -/
def written (lines : List String) : List TerminalEvent := lines.map .written

/-- What a step of the interpreter shows, and where the game stands then.  A step that fails
shows nothing. -/
def told : Interpreter × Except StoryFault Report → List TerminalEvent × Situation
  | (_, .error fault) => ([], .finished (.untold fault))
  | (story, .ok report) => (written (Event.lines report.events), .ofStory story)

/-! ## Saving -/

/-- Save the progress and write about it; the failure, if the game cannot go on. -/
def save (console : Console σ) (session : Session) :
    StateM σ (List TerminalEvent × Option Ending) := do
  let begun := TerminalEvent.written "Saving..."
  match ← saveProgress console.gateway session with
  | .error (.gateway fault) =>
    return ([begun, .written ("Save failed: " ++ fault.message.display)], none)
  | .error fault => return ([begun], some (.failed fault))
  | .ok code =>
    let done := TerminalEvent.written ("Saved. Your code is " ++ code.display)
    match console.slips with
    | none => return ([begun, done], none)
    | some slips =>
      let text := SaveSlip.text code.display session.tenant
      match ← slips (SaveSlip.fileName session.tenant) text with
      | .ok path => return ([begun, .written ("Save slip written to " ++ path), done], none)
      | .error fault => return ([begun], some (.slipFailed fault))

/-! ## Beginning -/

/-- Find out about the player of a story that has not begun, and begin it. -/
def welcome (console : Console σ) (story : Interpreter) :
    Player → StateM σ (List TerminalEvent × Situation)
  | .new none => return ([], .naming story)
  | .new (some name) => return told (story.named name).tryStart
  | .saved code => do
    let begun := TerminalEvent.written "Loading save data..."
    match ← restoreProgress console.gateway story.session code with
    | .ok (_, session) =>
      let (shown, situation) := told { story with session := session }.tryStart
      return (begun :: shown, situation)
    | .error (.gateway _) =>
      return ([begun, .written "Save data could not be found."], .finished (.exited 1))
    | .error fault => return ([begun], .finished (.failed fault))

/-- What is shown before the first answer, and where the game stands then. -/
def opening (console : Console σ) (player : Player) :
    StateM σ (List TerminalEvent × Situation) := do
  let settings := console.settings
  let begun := TerminalEvent.written "Loading the latest scenario..."
  match ← loadCatalog console.gateway settings.tenant settings.scenario with
  | .error (.gateway _) =>
    return ([begun, .written "Could not load the scenario. Please try again later."],
      .finished (.exited 1))
  | .error fault => return ([begun], .finished (.failed fault))
  | .ok catalog =>
    let resolver := Resolver.below settings.assetBase Resolver.defaultQuery
    let story := Interpreter.idle resolver { tenant := settings.tenant, catalog }
    let (shown, situation) ← console.welcome story player
    return (begun :: shown, situation)

/-! ## Playing -/

/-- What an answer brings to the terminal, and where the game stands then. -/
def answered (console : Console σ) (answer : String) :
    Situation → StateM σ (List TerminalEvent × Situation)
  | .finished ending => return ([], .finished ending)
  | .naming story =>
    let name := strippedAnswer answer
    if name = "" then return ([], .naming story)
    else return told (story.named name).tryStart
  | .reading story =>
    match Choice.ofAnswer answer with
    | .quit => return ([], .finished (.exited 0))
    | .goOn => return told story.tryAdvance
    | .save => do
      match ← console.save story.session with
      | (shown, some ending) => return (shown, .finished ending)
      | (shown, none) => return (shown, .reading story)

/-- Play on with the answers that are left.  When there are none the game is left. -/
def playOn (console : Console σ) : Situation → List String → StateM σ Game
  | .finished ending, _ => return ⟨[], ending⟩
  | situation, [] => return ⟨(situation.prompt?.map .prompted).toList, .exited 0⟩
  | situation, answer :: rest => do
    let asked := (situation.prompt?.map .prompted).toList
    let (shown, next) ← console.answered answer situation
    let game ← console.playOn next rest
    return { game with transcript := asked ++ shown ++ game.transcript }

/-- Play the story that the settings name. -/
def play (console : Console σ) (player : Player) (answers : List String) :
    StateM σ Game := do
  let (shown, situation) ← console.opening player
  let game ← console.playOn situation answers
  return { game with transcript := shown ++ game.transcript }

end Console

end VisualNovel
