import Std.Time.DateTime
import VisualNovel.Launcher.Basic

/-!
# The program

The launcher at a real terminal, over real files.  The files that a call can look at are
read first, the call is carried out on them, and what it changed is written back: a game
is played answer by answer, and written back after each of them.

A backend is not started from here.  Where the launcher starts one, its command is
written to the standard error.  The calls of a game are answered by a backend inside the
program, over the store that a backend would serve.
-/

namespace VisualNovel.Terminal

/-! ## Files -/

/-- Add what is at a location of the real files, with everything below it. -/
partial def readAt (location : Location) (files : FileTree) : IO FileTree := do
  let path := (← IO.currentDir) / (Path.mk true location).text
  if ← path.isDir then
    (← path.readDir).foldlM
      (fun files entry => readAt (location ++ [entry.fileName]) files)
      (files.place location .directory)
  else if ← path.pathExists then
    return files.place location (.file (← IO.FS.readBinFile path))
  else return files

/-- Add the directories on the way to a location. -/
def readWay (location : Location) (files : FileTree) : IO FileTree :=
  (List.range location.length).foldlM (fun files length => do
    let outer := location.take (length + 1)
    let path := (← IO.currentDir) / (Path.mk true outer).text
    return if ← path.isDir then files.place outer .directory else files) files

/-- The real files below some paths. -/
def readFiles (workingDirectory : Location) (paths : List Path) : IO FileTree := do
  let empty ← readWay workingDirectory { workingDirectory, entries := [] }
  paths.foldlM (fun files path => do
    let location := path.fromRoot workingDirectory
    readAt location (← readWay location files)) empty

/-- Make the real files as they are after a change. -/
def writeFiles (before after : FileTree) : IO Unit := do
  let here ← IO.currentDir
  for (location, _) in before.entries do
    if (after.entry? location).isNone ∧ (after.entry? location.dropLast).isSome then
      let path := here / (Path.mk true location).text
      if ← path.isDir then IO.FS.removeDirAll path else IO.FS.removeFile path
  for (location, entry) in after.entries do
    let path := here / (Path.mk true location).text
    match entry, before.entry? location with
    | .directory, some .directory => pure ()
    | .directory, _ => IO.FS.createDirAll path
    | .file content, some (.file known) =>
      if content.data ≠ known.data then IO.FS.writeBinFile path content
    | .file content, _ => IO.FS.writeBinFile path content

/-! ## Surroundings -/

/-- The moment that the clock shows. -/
def moment : IO Moment := do
  let now ← Std.Time.Timestamp.now
  let time := Std.Time.PlainDateTime.ofWallTime (now.toWallTime .zero)
  return {
    year := time.date.year.toInt.toNat
    month := time.date.month.val.toNat
    day := time.date.day.val.toNat
    hour := time.time.hour.val.toNat
    minute := time.time.minute.val.toNat
    second := time.time.second.val.toNat
    microsecond := time.time.nanosecond.val.toNat / 1000 }

/-- Draws for one save code. -/
def draws : IO (List Nat) :=
  (List.replicate SaveCode.length ()).mapM fun _ => do
    return (← IO.getRandomBytes 8).toList.foldl (fun value byte => 256 * value + byte.toNat) 0

/-- The store with the clock set and draws for another save code. -/
def refreshed (store : Store) : IO Store :=
  return { store with clock := ← moment, draws := ← draws }

/-- The words of a text that may be names of variables. -/
def names (text : String) : List String :=
  (text.splitToList fun c => !(c.isAlphanum || c = '_')).filter (· ≠ "")

/-- The variables with the given names that exist. -/
def existing (names : List String) : IO Environment :=
  names.foldlM (fun found name => do
    match ← IO.getEnv name with
    | some value => return OrderedMap.put name value found
    | none => return found) []

/-- What the launcher finds when it is called, if the file `.env` beside the program can be
read. -/
def surroundings (programRoot : Path) : IO (Except EnvironmentFault Surroundings) := do
  let file := programRoot.child ".env"
  let files ← readFiles [] [file]
  let text := match files.readFile file with
    | .ok content => (String.fromUTF8? content).getD ""
    | .error _ => ""
  let known := ["HOST", "BACKEND_PORT", "DATA_DIR"] ++ Settings.variableNames.map Prod.snd
  let found ← existing (known ++ names text)
  return (found.extendedBy files file).map fun environment =>
    { programRoot, environment
      host := (OrderedMap.at? "HOST" environment).getD "0.0.0.0"
      port := (OrderedMap.at? "BACKEND_PORT" environment).getD "13013" }

/-! ## At the terminal -/

/-- Finish with an ending. -/
def finish (ending : LaunchEnding) : IO UInt32 := do
  ending.complaint.forM fun line => do (← IO.getStderr).putStrLn line
  return ending.code.toUInt32

/-- Show a text at once. -/
def display (text : String) : IO Unit := do
  let output ← IO.getStdout
  output.putStr text
  output.flush

/-- Play on until the game is over or there are no more answers. -/
partial def playOn (console : Console Store) (store : Store) (situation : Situation) :
    IO Ending := do
  match situation, situation.prompt? with
  | .finished ending, _ => return ending
  | _, none => return .exited 0
  | situation, some prompt =>
    display prompt
    let answer ← (← IO.getStdin).getLine
    if answer.isEmpty then return .exited 0
    let ((shown, next), changed) := (console.answered answer situation).run (← refreshed store)
    writeFiles store.files changed.files
    display (Launcher.terminalText shown)
    playOn console changed next

/-- Play a story. -/
def play (surroundings : Surroundings) (workingDirectory : Location) (arguments : Arguments) :
    IO UInt32 := do
  let root := Launcher.servedDirectory surroundings.programRoot surroundings.environment
  match Launcher.console (.toStoreAt root) surroundings workingDirectory arguments with
  | .error refusal => finish (.badSettings refusal)
  | .ok console =>
    let files ← readFiles workingDirectory [root]
    let store : Store := { files, clock := ← moment }
    let ((shown, situation), changed) := (console.opening (Launcher.player arguments)).run store
    writeFiles files changed.files
    display (Launcher.terminalText shown)
    finish (.ofGame (← playOn console changed situation))

/-! ## Launching -/

/-- Fill the store if asked for, and tell how to start the backend. -/
def launch (surroundings : Surroundings) (workingDirectory : Location) (arguments : Arguments) :
    IO UInt32 := do
  let source := arguments.importDirectory.map Path.ofText
  let files ← readFiles workingDirectory (Launcher.dataDirectory arguments :: source.toList)
  let store : Store := { files, clock := ← moment }
  let (launch, changed) := (Launcher.launch .unreachable surroundings arguments).run store
  writeFiles files changed.files
  display launch.output
  match launch.started with
  | none => finish launch.ending
  | some program =>
    (← IO.getStderr).putStrLn (" ".intercalate program.command)
    finish launch.ending

/-- Call the launcher with the words of a command line. -/
def run (words : List String) : IO UInt32 := do
  match Arguments.parse words with
  | .help => display Launcher.help; return 0
  | .wrong fault => finish (.usage fault)
  | .read arguments =>
    let workingDirectory := (Path.ofText (toString (← IO.currentDir))).parts
    let programRoot : Path := ⟨true, (Path.ofText (toString (← IO.appPath))).parts.dropLast⟩
    match ← surroundings programRoot with
    | .error fault => do
      (← IO.getStderr).putStrLn (".env: " ++ fault.message)
      return 1
    | .ok surroundings =>
      if arguments.play then play surroundings workingDirectory arguments
      else launch surroundings workingDirectory arguments

end VisualNovel.Terminal

/-- The program. -/
def main (words : List String) : IO UInt32 := VisualNovel.Terminal.run words
