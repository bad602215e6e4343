import VisualNovel.Files.Tree
import VisualNovel.Record.Refusal
import VisualNovel.Settings.Basic
import VisualNovel.Settings.EnvFile

/-!
# Settings from the environment

Each of the settings can be given by a variable.  Variables may come from a file, but one
that exists, even an empty one, is never overridden by the file.  An empty variable
gives nothing.

Values in a file may refer to variables: `${NAME}`, and `${NAME:-text}` with a text for
the case that there is no such variable.
-/

namespace VisualNovel

/-- The variables that exist. -/
abbrev Environment : Type := OrderedMap String String

/-- Why a file with variables is not taken over. -/
inductive EnvironmentFault where
  /-- The file is no text. -/
  | undecodable
  /-- A name or a value holds a null byte. -/
  | nullByte
  /-- A name holds an equals sign. -/
  | illegalName
  deriving DecidableEq, Repr

/-- What is said about the fault. -/
def EnvironmentFault.message : EnvironmentFault → String
  | .undecodable => "the file is not UTF-8"
  | .nullByte => "embedded null byte"
  | .illegalName => "illegal environment variable name"

namespace Environment

/-! ## References to variables -/

/-- A reference after its opening brace: the name, the text that stands in for it, and
the rest of the text. -/
def reference? (text : List Char) : Option (String × String × List Char) :=
  let (name, rest) := text.span fun c => c ≠ '\x7d' && c ≠ ':'
  match rest with
  | '\x7d' :: rest => some (String.ofList name, "", rest)
  | ':' :: '-' :: rest =>
    match rest.span (· ≠ '\x7d') with
    | (standIn, '\x7d' :: rest) => some (String.ofList name, String.ofList standIn, rest)
    | _ => none
  | _ => none

/-- The text with at most the given number of characters and references resolved. -/
def resolveFrom (meaning : String → Option String) : Nat → List Char → List Char
  | 0, text => text
  | _, [] => []
  | fuel + 1, c :: rest =>
    match c, rest with
    | '$', '\x7b' :: inside =>
      match reference? inside with
      | some (name, standIn, after) =>
        ((meaning name).getD standIn).toList ++ resolveFrom meaning fuel after
      | none => c :: resolveFrom meaning fuel rest
    | _, _ => c :: resolveFrom meaning fuel rest

/-- The text with its references resolved. -/
def resolve (meaning : String → Option String) (text : String) : String :=
  String.ofList (resolveFrom meaning text.toList.length text.toList)

/-! ## Files -/

/-- What a name means in a file: the variable that exists, or else what the file said
before. -/
def meaning (environment : Environment) (earlier : OrderedMap String (Option String))
    (name : String) : Option String :=
  match OrderedMap.at? name environment with
  | some value => some value
  | none => (OrderedMap.at? name earlier).map fun value => value.getD ""

/-- The bindings of a file with their references resolved, the last one of a name
counting. -/
def resolved (environment : Environment) (bindings : List EnvFile.Binding) :
    OrderedMap String (Option String) :=
  bindings.foldl (fun earlier (name, value) =>
    OrderedMap.put name (value.map (resolve (meaning environment earlier))) earlier) []

/-- The variables with one more.  The names and values of variables hold no null byte, and
a name holds no equals sign. -/
def set? (name value : String) (environment : Environment) :
    Except EnvironmentFault Environment :=
  if name.contains '\x00' || value.contains '\x00' then .error .nullByte
  else if name.contains '=' then .error .illegalName
  else .ok (OrderedMap.put name value environment)

/-- The variables with those of a file that are new. -/
def extended (environment : Environment) (bindings : List EnvFile.Binding) :
    Except EnvironmentFault Environment :=
  (resolved environment bindings).foldlM (fun result (name, value) =>
    match value, OrderedMap.at? name environment with
    | some value, none => set? name value result
    | _, _ => .ok result) environment

/-- Does a word mean yes?  Capital letters count as small ones, and a long s as an s. -/
def isYes (word : String) : Bool :=
  let folded := word.map fun c => if c = 'ſ' then 's' else c.toLower
  ["1", "true", "t", "yes", "y"].contains folded

/-- The variables with those of the file at a path, if there is a file. -/
def extendedBy (environment : Environment) (files : FileTree) (path : Path) :
    Except EnvironmentFault Environment :=
  match files.readFile path with
  | .error _ => .ok environment
  | .ok content =>
    match String.fromUTF8? content with
    | some text => environment.extended (EnvFile.parse text)
    | none => .error .undecodable

/-- The variables with those of the file at a path, unless the variable that switches
files off says yes. -/
def extendedUnless (switch : String) (environment : Environment) (files : FileTree)
    (path : Path) : Except EnvironmentFault Environment :=
  if (OrderedMap.at? switch environment).any isYes then .ok environment
  else environment.extendedBy files path

end Environment

namespace Settings

/-- The variables that give settings. -/
def variableNames : List (Field × String) :=
  [(Part.apiUrl, "NOVEL_API_URL"), (Part.tenant, "NOVEL_TENANT_ID"),
   (Part.scenario, "NOVEL_SCENARIO"), (Part.assetBase, "NOVEL_ASSET_BASE_URL"),
   (Part.timeout, "NOVEL_TIMEOUT")]

/-- The settings that are given by variables, as a record. -/
def given (environment : Environment) : Json :=
  .obj (variableNames.filterMap fun (field, name) =>
    match OrderedMap.at? name environment with
    | none | some "" => none
    | some value => some (field.name, .str value))

/-- The settings in an environment. -/
def ofEnvironment (environment : Environment) : Except Refusal Settings :=
  (read (given environment)).require "Settings"

end Settings

end VisualNovel
