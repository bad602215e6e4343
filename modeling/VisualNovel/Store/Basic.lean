import VisualNovel.Files.Tree
import VisualNovel.Json.Bytes
import VisualNovel.Json.Printer
import VisualNovel.Store.Clock
import VisualNovel.Store.Key

/-!
# The document store

Documents are JSON values in files, one file each:

```text
<root>/tenants/<tenant>/<collection>/<id>.json
```

A store has to be opened before it is used, which fixes its root and makes the
directories that all tenants share.  Tenants and ids are keys, so no path can leave the
directory of its tenant.  They are handed over as they came, as values of any kind, and
it is the store that finds out whether they are keys.

An operation may fail halfway, and what it did before stays done: an `Action` answers
with a value or a fault and leaves a store in either case.
-/

namespace VisualNovel

/-- Why an operation of the store fails. -/
inductive StoreFault where
  /-- The store has not been opened. -/
  | notOpened
  /-- Something is no key. -/
  | key (fault : KeyFault)
  /-- A file or a directory is not as it has to be. -/
  | file (fault : FileFault)
  /-- A file holds no JSON. -/
  | unreadable (fault : Json.BytesFault)
  /-- A file should hold an array; it holds something of another kind. -/
  | notAnArray (file kind : String)
  /-- A script line is no object. -/
  | notARecord
  /-- A character record has no fields. -/
  | notIndexable
  /-- A value has no elements. -/
  | notIterable
  /-- The data of a save is no object. -/
  | notAnObject
  /-- The name of a collection is no text. -/
  | notAName
  /-- The documents to be written are no object. -/
  | notDocuments
  /-- A character record lacks a field. -/
  | missingField (name : String)
  /-- There is no room to write a document. -/
  | tooDeep
  deriving DecidableEq, Repr

/-- The message about a failure, if there is one of its own. -/
def StoreFault.message? : StoreFault → Option String
  | notOpened => some "Call init_storage() before using storage"
  | key fault => some fault.message
  | file fault => some fault.message
  | unreadable (.text fault) => fault.message?
  | notAnArray name kind => some (name ++ " must contain a JSON array, got " ++ kind)
  | missingField name => some ("'" ++ name ++ "'")
  | unreadable .undecodable | notARecord | notIndexable | notIterable | notAnObject | notAName
  | notDocuments | tooDeep => none

/-- A store: the files, the root once it is opened, the draws for save codes, and the
clock. -/
structure Store where
  files : FileTree
  root : Option Path := none
  draws : List Nat := []
  clock : Moment

/-- An operation of the store. -/
abbrev Store.Action (α : Type) : Type := ExceptT StoreFault (StateM Store) α

namespace Store

variable [Json.Room]

/-! ## Files -/

/-- An answer that is read off the files. -/
def ask {α : Type} (question : FileTree → Except FileFault α) : Action α := do
  let store ← get
  match question store.files with
  | .ok answer => return answer
  | .error fault => throw (.file fault)

/-- A change of the files that is made or not. -/
def change (step : FileTree → Except FileFault FileTree) : Action Unit := do
  let store ← get
  match step store.files with
  | .ok files => set { store with files := files }
  | .error fault => throw (.file fault)

/-- A change of the files that may be made in part. -/
def attempt (step : FileTree → FileTree × Option FileFault) : Action Unit := do
  let store ← get
  let (files, fault) := step store.files
  set { store with files := files }
  match fault with
  | none => return ()
  | some fault => throw (.file fault)

/-- The value that the file at a path holds, where it is read at a place. -/
def readJson (place : Json.Place) (path : Path) : Action Json := do
  let content ← ask fun files => files.readFile path
  match Json.parseFile place content with
  | .ok value => return value
  | .error fault => throw (.unreadable fault)

/-! ## Directories -/

/-- The root of the store. -/
def directory : Action Path := do
  match (← get).root with
  | some root => return root
  | none => throw .notOpened

/-- The directory of all tenants. -/
def tenants : Action Path := return (← directory).child "tenants"

/-- The directory of the images. -/
def media : Action Path := return (← directory).child "media"

/-- Open the store at a directory, which is made if need be. -/
def openAt (root : Path) : Action Unit := do
  modify fun store => { store with root := some root }
  attempt fun files => files.makeDirectories root
  let tenants ← tenants
  attempt fun files => files.ensureDirectory tenants

/-- The key that a value is. -/
def key (role : String) (value : Json) : Action String :=
  match Key.ofJson role value with
  | .ok key => return key
  | .error fault => throw (.key fault)

/-- The directory of a collection, which need not be there. -/
def collection (tenant collection : Json) : Action Path := do
  let tenants ← tenants
  let tenant ← key "tenant id" tenant
  match collection with
  | .str name => return (tenants.child tenant).child name
  | _ => throw .notAName

/-! ## Documents -/

/-- The elements of a value. -/
def elements (value : Json) : Action (List Json) :=
  match value.elements? with
  | some elements => return elements
  | none => throw .notIterable

/-- Does the name of a file say that it holds a document? -/
def isDocumentName (name : String) : Bool := name.endsWith ".json"

/-- The name of the file with a document. -/
def documentName (id : String) : String := id ++ ".json"

/-- All documents of a collection, in the order of the names of their files. -/
def documents (tenant collection : Json) : Action (List Json) := do
  let directory ← Store.collection tenant collection
  if ← ask fun files => files.isDirectory directory then
    let names ← ask fun files => files.list directory
    (names.filter isDocumentName).mapM fun name => readJson .collection (directory.child name)
  else return []

/-- A document, if there is one under the id. -/
def document? (tenant collection id : Json) : Action (Option Json) := do
  let directory ← Store.collection tenant collection
  let id ← key "document id" id
  let path := directory.child (documentName id)
  if ← ask fun files => files.isFile path then return some (← readJson .document path)
  else return none

/-- Write one document into a directory, if there is room to write it. -/
def writeDocument (directory : Path) (id : String) (document : Json) : Action Unit :=
  if Json.Room.stores document then
    change fun files =>
      files.writeFile (directory.child (documentName id)) (document.toText .stored).toUTF8
  else throw .tooDeep

/-- Write documents, the fields of an object, under their ids.  Nothing is written unless
all ids are keys. -/
def write (tenant collection documents : Json) : Action Unit := do
  (← elements documents).forM fun id => discard (key "document id" id)
  let directory ← Store.collection tenant collection
  attempt fun files => files.makeDirectories directory
  match documents with
  | .obj fields => fields.forM fun (id, document) => writeDocument directory id document
  | _ => throw .notDocuments

end Store

end VisualNovel
