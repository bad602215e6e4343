import VisualNovel.Json.Display

/-!
# Keys

Tenants, documents and saves are named by keys: at least one character, each a letter
or a digit of ASCII, an underscore or a hyphen.  A key is safe as the name of a file.
-/

namespace VisualNovel

/-- Why something is not taken as a key. -/
inductive KeyFault where
  /-- The text in the given role is no key. -/
  | invalid (role shown : String)
  /-- It is no text at all. -/
  | notText
  deriving DecidableEq, Repr

/-- The message about a text that is no key. -/
def KeyFault.message : KeyFault → String
  | invalid role shown => "Invalid " ++ role ++ ": " ++ shown
  | notText => "A key is a text"

namespace Key

/-- May the character stand in a key? -/
def allows (c : Char) : Bool :=
  c.isAlphanum || c = '_' || c = '-'

/-- Is the text a key? -/
def isKey (text : String) : Bool :=
  !text.isEmpty && text.toList.all allows

/-- The text, if it is a key; `role` says in messages what it is the key of. -/
def check (role text : String) : Except KeyFault String :=
  if isKey text then .ok text else .error (.invalid role (Text.quoted text))

/-- The key that a value is.  Values that stand for nothing are refused like the empty
text. -/
def ofJson (role : String) : Json → Except KeyFault String
  | .str text => check role text
  | value => if value.isTruthy then .error .notText else .error (.invalid role value.shown)

/-- Is the value a key?  This cannot be asked of a value that is no text, unless it
stands for nothing. -/
def isKeyValue : Json → Except KeyFault Bool
  | .str text => .ok (isKey text)
  | value => if value.isTruthy then .error .notText else .ok false

end Key

end VisualNovel
