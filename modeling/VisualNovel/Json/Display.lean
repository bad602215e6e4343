import VisualNovel.Json.Value
import VisualNovel.Text.Quoted

/-!
# Values in running text

A value that turns up in a message or in a document id is written for reading: a
text as it is, a text inside a container between quotes, the absent value and the
two truth values with a capital letter.
-/

namespace VisualNovel.Json

/-- How doubles are written in running text. -/
def displayLayout : Binary64.Layout := ⟨-4, 15, 2, "nan", "inf"⟩

/-- The text of a double. -/
def realText (value : Binary64) : String :=
  String.ofList (value.toChars displayLayout)

/-- The text of a number. -/
def numberDisplay : Number → String
  | .whole value => String.ofList (Numeral.ofInt value)
  | .real value => realText value

mutual

/-- The text of a value inside a container. -/
def shown : Json → String
  | .null => "None"
  | .bool true => "True"
  | .bool false => "False"
  | .num value => numberDisplay value
  | .str text => Text.quoted text
  | .arr items => "[" ++ ", ".intercalate (shownItems items) ++ "]"
  | .obj fields => "\x7b" ++ ", ".intercalate (shownFields fields) ++ "\x7d"

/-- The texts of the items of an array. -/
def shownItems : List Json → List String
  | [] => []
  | item :: rest => shown item :: shownItems rest

/-- The texts of the fields of an object. -/
def shownFields : List (String × Json) → List String
  | [] => []
  | (key, value) :: rest => (Text.quoted key ++ ": " ++ shown value) :: shownFields rest

end

/-- The text of a value on its own. -/
def display : Json → String
  | .str text => text
  | value => shown value

end VisualNovel.Json
