import VisualNovel.Files.Path
import VisualNovel.OrderedMap

/-!
# Trees of files

A tree of files says for every location, the list of names that leads to it from the
root, whether there is a directory or a file with its bytes.  The root is always a
directory.

To follow a path every step but the last has to lead into a directory.  A name is
refused if it is longer than `nameLimit` bytes, but not before its directory has been
reached, and a path if it is longer than `pathLimit` bytes.  A path with a null byte
leads nowhere.
-/

namespace VisualNovel

/-- The names that lead to a place from the root. -/
abbrev Location : Type := List String

/-- What is at a location. -/
inductive Entry where
  | directory
  | file (content : ByteArray)

/-- Why something cannot be done to a tree of files. -/
inductive FileFault where
  /-- There is nothing at the path, or at a directory on the way. -/
  | notFound
  /-- A directory is needed where there is a file. -/
  | notDirectory
  /-- A file is needed where there is a directory. -/
  | isDirectory
  /-- There is something already. -/
  | alreadyThere
  /-- A name or the whole path is too long. -/
  | nameTooLong
  /-- A name holds a null byte. -/
  | nullByte
  deriving DecidableEq, Repr

/-- The message about a fault. -/
def FileFault.message : FileFault → String
  | notFound => "No such file or directory"
  | notDirectory => "Not a directory"
  | isDirectory => "Is a directory"
  | alreadyThere => "File exists"
  | nameTooLong => "File name too long"
  | nullByte => "embedded null byte"

/-- Directories and files, and the directory where relative paths begin. -/
structure FileTree where
  workingDirectory : Location
  entries : OrderedMap Location Entry

namespace FileTree

/-- The greatest length of a name, in bytes. -/
def nameLimit : Nat := 255

/-- The greatest length of a path, in bytes. -/
def pathLimit : Nat := 4095

/-- The tree with a working directory and nothing in it. -/
def fresh (workingDirectory : Location) : FileTree :=
  { workingDirectory
    entries := (List.range workingDirectory.length).map fun outer =>
      (workingDirectory.take (outer + 1), .directory) }

/-- What is at a location. -/
def entry? (tree : FileTree) (location : Location) : Option Entry :=
  if location = [] then some .directory else OrderedMap.at? location tree.entries

/-- The tree with an entry at a location. -/
def place (location : Location) (entry : Entry) (tree : FileTree) : FileTree :=
  { tree with entries := OrderedMap.put location entry tree.entries }

/-! ## Following a path -/

/-- Where some names lead from a location. -/
def walk (tree : FileTree) : Location → List String → Except FileFault Location
  | place, [] => .ok place
  | place, name :: rest =>
    match tree.entry? place with
    | none => .error .notFound
    | some (.file _) => .error .notDirectory
    | some .directory =>
      if name = ".." then tree.walk place.dropLast rest
      else if nameLimit < name.utf8ByteSize then .error .nameTooLong
      else tree.walk (place ++ [name]) rest

/-- Where a path leads; there need not be anything. -/
def locate (tree : FileTree) (path : Path) : Except FileFault Location :=
  if path.parts.any (·.contains '\x00') then .error .nullByte
  else if pathLimit < path.text.utf8ByteSize then .error .nameTooLong
  else tree.walk (if path.absolute then [] else tree.workingDirectory) path.parts

/-- What is at a path. -/
def look (tree : FileTree) (path : Path) : Except FileFault Entry := do
  let location ← tree.locate path
  match tree.entry? location with
  | none => .error .notFound
  | some entry => .ok entry

/-- The answer to a question about what is at a path; it is no if the path leads
nowhere. -/
def ask (tree : FileTree) (path : Path) (question : Entry → Bool) : Except FileFault Bool :=
  match tree.look path with
  | .ok entry => .ok (question entry)
  | .error .notFound => .ok false
  | .error .notDirectory => .ok false
  | .error .nullByte => .ok false
  | .error fault => .error fault

/-- Is there a directory at the path? -/
def isDirectory (tree : FileTree) (path : Path) : Except FileFault Bool :=
  tree.ask path fun entry => entry matches .directory

/-- Is there a file at the path? -/
def isFile (tree : FileTree) (path : Path) : Except FileFault Bool :=
  tree.ask path fun entry => entry matches .file _

/-- Is there anything at the path? -/
def isThere (tree : FileTree) (path : Path) : Except FileFault Bool :=
  tree.ask path fun _ => true

/-! ## Reading and writing -/

/-- The bytes of the file at a path. -/
def readFile (tree : FileTree) (path : Path) : Except FileFault ByteArray := do
  match ← tree.look path with
  | .directory => .error .isDirectory
  | .file content => .ok content

/-- The tree after a file has been written, over an old one if there is one. -/
def writeFile (path : Path) (content : ByteArray) (tree : FileTree) :
    Except FileFault FileTree := do
  let location ← tree.locate path
  match tree.entry? location with
  | some .directory => .error .isDirectory
  | _ => .ok (tree.place location (.file content))

/-- The tree with one more directory. -/
def makeDirectory (path : Path) (tree : FileTree) : Except FileFault FileTree := do
  let location ← tree.locate path
  match tree.entry? location with
  | some _ => .error .alreadyThere
  | none => .ok (tree.place location .directory)

/-- The tree with a directory at the path, which may be there before, and the fault if
there cannot be one. -/
def ensureDirectory (path : Path) (tree : FileTree) : FileTree × Option FileFault :=
  match tree.makeDirectory path with
  | .ok made => (made, none)
  | .error fault =>
    match tree.isDirectory path with
    | .ok true => (tree, none)
    | _ => (tree, some fault)

/-- The tree with a directory at the path of the given names, the last one first, and
with the directories on the way.  Directories that were made stay if a later one
cannot be made. -/
def ensureDirectories (absolute : Bool) : List String → FileTree → FileTree × Option FileFault
  | [], tree => (tree, none)
  | name :: outer, tree =>
    let path : Path := ⟨absolute, (name :: outer).reverse⟩
    match tree.makeDirectory path with
    | .error .notFound =>
      match ensureDirectories absolute outer tree with
      | (made, some fault) => (made, some fault)
      | (made, none) => made.ensureDirectory path
    | _ => tree.ensureDirectory path

/-- The tree with a directory at the path and directories on the way to it. -/
def makeDirectories (path : Path) (tree : FileTree) : FileTree × Option FileFault :=
  tree.ensureDirectories path.absolute path.parts.reverse

/-- The tree without the directory at the path and all that is below it. -/
def removeDirectory (path : Path) (tree : FileTree) : Except FileFault FileTree := do
  let location ← tree.locate path
  match tree.entry? location with
  | none => .error .notFound
  | some (.file _) => .error .notDirectory
  | some .directory =>
    .ok { tree with
      entries := tree.entries.filter fun entry => !location.isPrefixOf entry.1 }

/-! ## What is in a directory -/

/-- The last name of a location that is directly inside another one. -/
def childName? (directory location : Location) : Option String :=
  match location.getLast? with
  | some name => if location.dropLast = directory then some name else none
  | none => none

/-- The names in a directory, in the order of their characters. -/
def names (tree : FileTree) (directory : Location) : List String :=
  ((tree.entries.map Prod.fst).filterMap (childName? directory)).mergeSort fun a b => a ≤ b

/-- The names in the directory at a path. -/
def list (tree : FileTree) (path : Path) : Except FileFault (List String) := do
  let location ← tree.locate path
  match tree.entry? location with
  | none => .error .notFound
  | some (.file _) => .error .notDirectory
  | some .directory => .ok (tree.names location)

/-- Is there nothing in the directory? -/
def isEmptyDirectory (tree : FileTree) (directory : Location) : Bool :=
  (tree.names directory).isEmpty

/-- The files below a location, under their names from there, and the directories with
nothing in them. -/
def leaves (tree : FileTree) (location : Location) : List (List String × Option ByteArray) :=
  tree.entries.filterMap fun (place, entry) =>
    if location.isPrefixOf place then
      match entry with
      | .file content => some (place.drop location.length, some content)
      | .directory =>
        if tree.isEmptyDirectory place then some (place.drop location.length, none) else none
    else none

end FileTree

end VisualNovel
