import VisualNovel.Client.Console
import VisualNovel.Gateway.Http
import VisualNovel.Launcher.Arguments
import VisualNovel.Settings.Environment
import VisualNovel.Store.Demo

/-!
# The launcher

The launcher does one of two things.  With `--play` a story is played at the terminal.
Otherwise the store is filled, if the command line asks for it, and the backend is
started as a program of its own, which the launcher waits for; when it is interrupted
it ends that program first.

The backend takes the directory of its store from the variable `DATA_DIR`, or else uses
the directory `data` of the program.  The launcher sets the variable when a directory is
given on the command line.
-/

namespace VisualNovel

/-- What the launcher finds when it is called. -/
structure Surroundings where
  /-- The directory of the program itself. -/
  programRoot : Path
  /-- The variables that exist. -/
  environment : Environment
  /-- The address at which the backend listens. -/
  host : String := "0.0.0.0"
  /-- The port at which the backend listens. -/
  port : String := "13013"
  /-- What the player types, if a story is played. -/
  answers : List String := []
  /-- Is the launcher interrupted while it waits for the backend? -/
  interrupted : Bool := false

/-- What is done to a program that was started. -/
inductive ProcessCall where
  | wait | terminate
  deriving DecidableEq, Repr

/-- A program that was started. -/
structure StartedProgram where
  command : List String
  directory : Path
  environment : Environment
  calls : List ProcessCall
  deriving DecidableEq, Repr

/-- How the launcher ends. -/
inductive LaunchEnding where
  /-- It has nothing more to do. -/
  | returned
  /-- It exits with a code. -/
  | exited (code : Nat)
  /-- The command line is wrong. -/
  | usage (fault : UsageFault)
  /-- The settings are refused. -/
  | badSettings (refusal : Refusal)
  /-- The store cannot be filled. -/
  | storeFailed (fault : StoreFault)
  /-- The game cannot go on. -/
  | gameFailed (ending : Ending)
  deriving DecidableEq

/-- How the launcher ends when a game does. -/
def LaunchEnding.ofGame : Ending → LaunchEnding
  | .exited code => .exited code
  | failure => .gameFailed failure

/-- What a call of the launcher leaves behind, apart from files. -/
structure Launch where
  output : String := ""
  ending : LaunchEnding := .returned
  started : Option StartedProgram := none
  /-- The settings of the game that was played. -/
  played : Option Settings := none
  deriving DecidableEq

namespace Launcher

variable [Json.Room]

/-- How the launcher is called. -/
def usage : String :=
  "usage: main.py [-h] [--data-dir DATA_DIR] [--demo] [--import-dir IMPORT_DIR]\n" ++
  "               [--tenant TENANT] [--play] [--name NAME] [--load LOAD] [-v]\n"

/-- The help text. -/
def help : String :=
  usage ++ "\nNovel Engine dev launcher\n\n" ++
  "options:\n" ++
  "  -h, --help            show this help message and exit\n" ++
  "  --data-dir DATA_DIR   Data storage directory (default: ./data)\n" ++
  "  --demo                Recreate the demo tenant's scenario and cast\n" ++
  "  --import-dir IMPORT_DIR\n" ++
  "                        Import characters.json and scenario.json from this\n" ++
  "                        directory\n" ++
  "  --tenant TENANT       Tenant for --import-dir and --play (default: demo)\n" ++
  "  --play                Play in the terminal against a running backend\n" ++
  "  --name NAME           Player name for a new game (--play)\n" ++
  "  --load LOAD           Resume from a save code (--play)\n" ++
  "  -v, --verbose         Debug logging\n"

/-- A text that is given and not empty. -/
def nonempty : Option String → Option String
  | some "" => none
  | given => given

/-! ## Playing -/

/-- What a terminal shows of a transcript. -/
def terminalText (transcript : List TerminalEvent) : String :=
  String.join (transcript.map fun event =>
    match event with
    | .written line => line ++ "\n"
    | .prompted text => text)

/-- A slip box in a directory of the files of a store. -/
def slips (directory : Path) : SlipBox Store := fun name text => do
  let store ← get
  let (answer, files) := (slipsIn directory name text).run store.files
  set { store with files := files }
  return answer

/-- The terminal where a story is played.  Slips for saves go into the working
directory. -/
def console (transport : Transport Store) (surroundings : Surroundings)
    (workingDirectory : Location) (arguments : Arguments) : Except Refusal (Console Store) := do
  let given ← Settings.ofEnvironment surroundings.environment
  let settings := match nonempty arguments.tenant with
    | some tenant => { given with tenant := tenant }
    | none => given
  let endpoint := Endpoint.ofAddress settings.apiUrl (.real settings.timeout)
  return { settings, gateway := endpoint.gateway transport
           slips := some (slips ⟨true, workingDirectory⟩) }

/-- Who plays, by the arguments. -/
def player (arguments : Arguments) : Player := Player.ofGiven arguments.name arguments.load

/-- Play a story with the answers of the player. -/
def play (transport : Transport Store) (surroundings : Surroundings) (arguments : Arguments) :
    StateM Store Launch := do
  match console transport surroundings (← get).files.workingDirectory arguments with
  | .error refusal => return { ending := .badSettings refusal }
  | .ok console =>
    let game ← console.play (player arguments) surroundings.answers
    return { output := terminalText game.transcript, ending := .ofGame game.ending
             played := some console.settings }

/-! ## Filling the store -/

/-- The directory of the store that is filled. -/
def dataDirectory (arguments : Arguments) : Path :=
  (arguments.dataDirectory.map Path.ofText).getD (Path.ofText "data")

/-- Does the command line ask for a store? -/
def asksForStore (arguments : Arguments) : Bool :=
  arguments.demo || arguments.importDirectory.isSome || arguments.dataDirectory.isSome

/-- Fill the store as the command line asks. -/
def fill (arguments : Arguments) : Store.Action Unit := do
  Store.openAt (dataDirectory arguments)
  if arguments.demo then Demo.create
  match arguments.importDirectory with
  | none => return ()
  | some source =>
    let _ ← Store.importDirectory (Path.ofText source)
      (.str ((nonempty arguments.tenant).getD Demo.tenant))

/-! ## Starting the backend -/

/-- The variables that the backend gets. -/
def backendEnvironment (workingDirectory : Location) (surroundings : Surroundings)
    (arguments : Arguments) : Environment :=
  match arguments.dataDirectory with
  | none => surroundings.environment
  | some given =>
    let directory : Path := ⟨true, (Path.ofText given).fromRoot workingDirectory⟩
    OrderedMap.put "DATA_DIR" directory.text surroundings.environment

/-- The directory of the store of a backend that was started in a directory with some
variables. -/
def servedDirectory (programRoot : Path) (environment : Environment) : Path :=
  match OrderedMap.at? "DATA_DIR" environment with
  | some given => programRoot.child given
  | none => programRoot.child "data"

/-- The program that the backend is, waited for and perhaps ended. -/
def backend (surroundings : Surroundings) (environment : Environment) : StartedProgram :=
  { command :=
      ["uv", "run", "uvicorn", "backend.app:app", "--reload", "--host", surroundings.host,
       "--port", surroundings.port]
    directory := surroundings.programRoot
    environment
    calls := if surroundings.interrupted then [.wait, .terminate, .wait] else [.wait] }

/-- Start the backend, and wait for it. -/
def serve (workingDirectory : Location) (surroundings : Surroundings) (arguments : Arguments) :
    Launch :=
  let environment := backendEnvironment workingDirectory surroundings arguments
  let begun := "Starting backend on http://localhost:" ++ surroundings.port ++ " ...\n"
  { output := if surroundings.interrupted then begun ++ "\nShutting down...\n" else begun
    ending := if surroundings.interrupted then .exited 0 else .returned
    started := some (backend surroundings environment) }

/-! ## Endings -/

/-- Where a value is refused. -/
def faultPlace (fault : Fault) : String :=
  ".".intercalate (fault.path.map fun step =>
    match step with
    | .key name => name
    | .index position => toString position)

/-- What is said about a call of the backend that fails, if there are words for it. -/
def callComplaint : ClientFault → List String
  | .gateway fault => [fault.message.display]
  | .notAnObject | .badAddress => []
  | .unwritten fault => [fault.message]
  | .tooDeep container => (Json.ReadFault.tooDeep container).message?.toList
  | .refused refusal => refusal.faults.map faultPlace

/-- What is said about a game that cannot go on. -/
def gameComplaint : Ending → List String
  | .exited _ => []
  | .failed fault => callComplaint fault
  | .untold fault => [fault.message]
  | .slipFailed fault => [fault.message]

/-! ## The launcher -/

/-- Do what the arguments say. -/
def launch (transport : Transport Store) (surroundings : Surroundings) (arguments : Arguments) :
    StateM Store Launch := do
  if arguments.play then play transport surroundings arguments
  else
    let workingDirectory := (← get).files.workingDirectory
    if asksForStore arguments then
      match ← (fill arguments).run with
      | .error fault => return { ending := .storeFailed fault }
      | .ok () => return serve workingDirectory surroundings arguments
    else return serve workingDirectory surroundings arguments

/-- Call the launcher with the words of a command line. -/
def run (transport : Transport Store) (surroundings : Surroundings) (words : List String) :
    StateM Store Launch :=
  match Arguments.parse words with
  | .help => return { output := help, ending := .exited 0 }
  | .wrong fault => return { ending := .usage fault }
  | .read arguments => launch transport surroundings arguments

end Launcher

namespace LaunchEnding

/-- The code with which the launcher exits. -/
def code : LaunchEnding → Nat
  | returned => 0
  | exited code => code
  | usage _ => 2
  | badSettings _ | storeFailed _ | gameFailed _ => 1

/-- The lines that say why the launcher did not do what it was asked to, as far as there are words
for it. -/
def complaint : LaunchEnding → List String
  | returned | exited _ => []
  | usage fault => [Launcher.usage ++ "main.py: error: " ++ fault.message]
  | badSettings refusal => refusal.faults.map Launcher.faultPlace
  | storeFailed fault => fault.message?.toList
  | gameFailed ending => Launcher.gameComplaint ending

end LaunchEnding

/-- The requests reach a server over the store at a directory, which is opened if need
be. -/
def Transport.toStoreAt [Json.Room] (root : Path) : Transport Store := fun request => do
  match ← (Http.Server.start root).run with
  | .ok server => return .ok (← server.handle request)
  | .error _ => return .ok Http.serverError

end VisualNovel
