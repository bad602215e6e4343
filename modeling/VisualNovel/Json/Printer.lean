import VisualNovel.Json.Room
import VisualNovel.Text.Unencodable
import VisualNovel.Text.Unpaired

/-!
# JSON text

One printer writes the forms of JSON text that are in use: stored documents are
laid out over several lines and keep to ASCII, requests and replies are written
without blanks and with their characters as they are.  Unpaired units are escaped in
both; but a client or a server leaves them as they are in what it writes, and then finds
that this text cannot be encoded.
-/

namespace VisualNovel.Json

/-- How JSON is laid out as text. -/
structure Style where
  /-- The width of one step of indentation, if the text is laid out over lines. -/
  indent : Option Nat
  /-- Are characters outside ASCII escaped? -/
  ascii : Bool
  /-- Are unpaired units escaped? -/
  units : Bool := true

/-- The form of stored documents. -/
def Style.stored : Style := ⟨some 2, true, true⟩

/-- The form of requests and replies. -/
def Style.wire : Style := ⟨none, false, true⟩

/-- The form of requests and replies before they are encoded. -/
def Style.unencoded : Style := ⟨none, false, false⟩

/-- Doubles are written without an exponent from `1e-4` up to below `1e16`. -/
def numberLayout : Binary64.Layout := ⟨-4, 15, 2, "NaN", "Infinity"⟩

/-! ## Numbers and strings -/

/-- The text of a number. -/
def numberText : Number → List Char
  | .whole value => Numeral.ofInt value
  | .real value => Binary64.toChars numberLayout value

/-- The units of 16 bits that a character is escaped by. -/
def units (c : Char) : List Nat :=
  match Text.unit? c with
  | some unit => [unit]
  | none =>
    if c.toNat < 0x10000 then [c.toNat]
    else
      let beyond := c.toNat - 0x10000
      [0xd800 + beyond / 0x400, 0xdc00 + beyond % 0x400]

/-- The escape of a character by its code. -/
def unicodeEscape (c : Char) : List Char :=
  (units c).flatMap fun unit => '\\' :: 'u' :: Text.hexDigits 4 unit

/-- One character inside a string. -/
def stringChar (style : Style) (c : Char) : List Char :=
  if c = '"' ∨ c = '\\' then ['\\', c]
  else if c = '\n' then ['\\', 'n']
  else if c = '\r' then ['\\', 'r']
  else if c = '\t' then ['\\', 't']
  else if c = '\x08' then ['\\', 'b']
  else if c = '\x0c' then ['\\', 'f']
  else if c.toNat < 0x20 ∨ style.ascii ∧ 0x7f ≤ c.toNat ∨
      style.units ∧ (Text.unit? c).isSome then
    unicodeEscape c
  else [c]

/-- The text of a string. -/
def stringText (style : Style) (text : String) : List Char :=
  '"' :: (text.toList.flatMap (stringChar style) ++ ['"'])

/-! ## Values -/

/-- The break before an item at the given depth. -/
def lineBreak (style : Style) (depth : Nat) : List Char :=
  match style.indent with
  | none => []
  | some width => '\n' :: List.replicate (width * depth) ' '

/-- What stands between a key and its value. -/
def keySeparator (style : Style) : List Char :=
  match style.indent with
  | none => [':']
  | some _ => [':', ' ']

mutual

/-- The text of a value at the given depth. -/
def render (style : Style) (depth : Nat) : Json → List Char
  | .null => ['n', 'u', 'l', 'l']
  | .bool true => ['t', 'r', 'u', 'e']
  | .bool false => ['f', 'a', 'l', 's', 'e']
  | .num value => numberText value
  | .str text => stringText style text
  | .arr [] => ['[', ']']
  | .arr items => '[' :: (renderItems style (depth + 1) items ++ lineBreak style depth ++ [']'])
  | .obj [] => ['\x7b', '\x7d']
  | .obj fields =>
    '\x7b' :: (renderFields style (depth + 1) fields ++ lineBreak style depth ++ ['\x7d'])

/-- The items of an array, each after a break, with commas between them. -/
def renderItems (style : Style) (depth : Nat) : List Json → List Char
  | [] => []
  | [item] => lineBreak style depth ++ render style depth item
  | item :: rest =>
    lineBreak style depth ++ render style depth item ++ ',' :: renderItems style depth rest

/-- The fields of an object, each after a break, with commas between them. -/
def renderFields (style : Style) (depth : Nat) : List (String × Json) → List Char
  | [] => []
  | [(key, value)] =>
    lineBreak style depth ++ stringText style key ++ keySeparator style ++
      render style depth value
  | (key, value) :: rest =>
    lineBreak style depth ++ stringText style key ++ keySeparator style ++
      render style depth value ++ ',' :: renderFields style depth rest

end

/-- The text of a value. -/
def toText (style : Style) (value : Json) : String :=
  String.ofList (render style 0 value)

mutual

/-- Can the value be sent: are its doubles finite, and its texts without unpaired units? -/
def isSendable : Json → Bool
  | .num (.real value) => value.isFinite
  | .str text => Text.isEncodable text
  | .arr items => itemsSendable items
  | .obj fields => fieldsSendable fields
  | _ => true

/-- Can all items of an array be sent? -/
def itemsSendable : List Json → Bool
  | [] => true
  | item :: rest => isSendable item && itemsSendable rest

/-- Can the names and values of all fields of an object be sent? -/
def fieldsSendable : List (String × Json) → Bool
  | [] => true
  | (name, value) :: rest =>
    Text.isEncodable name && isSendable value && fieldsSendable rest

end

/-! ## Requests -/

/-- Why a value is not written as a request. -/
inductive WriteFault where
  /-- There is no room for an array or an object. -/
  | tooDeep
  /-- A double is not finite. -/
  | notFinite
  /-- The text has no encoding. -/
  | unencodable (fault : Text.Unencodable)
  deriving DecidableEq, Repr

/-- The message about a value that is not written. -/
def WriteFault.message : WriteFault → String
  | tooDeep => "maximum recursion depth exceeded while encoding a JSON object"
  | notFinite => "Out of range float values are not JSON compliant"
  | unencodable fault => fault.message

mutual

/-- Why the value has no text where `depth` arrays and objects may lie within one another, if it
has none: the first fault counts. -/
def textFault? : Nat → Json → Option WriteFault
  | _, .null | _, .bool _ | _, .num (.whole _) | _, .str _ => none
  | _, .num (.real value) => if value.isFinite then none else some .notFinite
  | 0, .arr _ | 0, .obj _ => some .tooDeep
  | depth + 1, .arr items => itemsFault? depth items
  | depth + 1, .obj fields => fieldsFault? depth fields

/-- Why the items of an array have no text. -/
def itemsFault? (depth : Nat) : List Json → Option WriteFault
  | [] => none
  | item :: rest => (textFault? depth item).or (itemsFault? depth rest)

/-- Why the fields of an object have no text. -/
def fieldsFault? (depth : Nat) : List (String × Json) → Option WriteFault
  | [] => none
  | (_, value) :: rest => (textFault? depth value).or (fieldsFault? depth rest)

end

/-- Why the value is not written as a request, if it is not. -/
def writeFault? [Room] (value : Json) : Option WriteFault :=
  (textFault? (Room.depth .request) value).or
    ((Text.unencodable? (value.toText .unencoded)).map .unencodable)

end VisualNovel.Json
