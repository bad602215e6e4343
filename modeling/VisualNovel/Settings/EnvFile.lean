import VisualNovel.OrderedMap
import VisualNovel.Text.Blank

/-!
# Files with variables

A file with variables has a line `NAME=value` for each of them:

```text
# a comment
export NAME = value      # the value ends before the comment
NAME='a text as it is'
NAME="a text with \n escapes"
NAME
```

A value between quotes may go over several lines.  A name without a value is noted, and
a line that cannot be read is passed over.

Every reader takes the text that is left, and gives back what it found and what is left
then.  A binding takes at least one character, which bounds the number of bindings.
-/

namespace VisualNovel.EnvFile

/-- A name, and its value if it has one. -/
abbrev Binding : Type := String × Option String

/-- Is the character blank, and no end of a line? -/
def isSpace (c : Char) : Bool := Text.isBlank c && c ≠ '\n'

/-- The text with one kind of line ends. -/
def withLineFeeds : List Char → List Char
  | '\r' :: '\n' :: rest => '\n' :: withLineFeeds rest
  | '\r' :: rest => '\n' :: withLineFeeds rest
  | c :: rest => c :: withLineFeeds rest
  | [] => []

/-- The text after the rest of the line. -/
def afterLine (text : List Char) : List Char :=
  (text.dropWhile (· ≠ '\n')).drop 1

/-! ## Names -/

/-- The text after the word `export`, if it stands there as a word of its own. -/
def afterExport (text : List Char) : List Char :=
  match text with
  | 'e' :: 'x' :: 'p' :: 'o' :: 'r' :: 't' :: c :: rest =>
    if isSpace c then rest.dropWhile isSpace else text
  | _ => text

/-- A name, between single quotes or without them.  There is none before a comment. -/
def name? : List Char → Option (Option (List Char) × List Char)
  | '#' :: rest => some (none, '#' :: rest)
  | '\'' :: rest =>
    match rest.span (· ≠ '\'') with
    | ([], _) => none
    | (name, '\'' :: after) => some (some name, after)
    | _ => none
  | text =>
    match text.span fun c => c ≠ '=' && c ≠ '#' && !Text.isBlank c with
    | ([], _) => none
    | (name, after) => some (some name, after)

/-! ## Values -/

/-- A text up to its closing quote, and the rest.  A backslash and the character after
it belong together, so a quote after a backslash does not close. -/
def untilQuote? (quote : Char) : List Char → Option (List Char × List Char)
  | [] => none
  | [c] => if c = quote then some ([], []) else none
  | c :: next :: rest =>
    if c = quote then some ([], next :: rest)
    else if c = '\\' then
      (untilQuote? quote rest).map fun (body, after) => (c :: next :: body, after)
    else (untilQuote? quote (next :: rest)).map fun (body, after) => (c :: body, after)

/-- The character that an escape between double quotes stands for. -/
def doubleEscape? : Char → Option Char
  | '\\' => some '\\'
  | '\'' => some '\''
  | '"' => some '"'
  | 'a' => some '\x07'
  | 'b' => some '\x08'
  | 'f' => some '\x0c'
  | 'n' => some '\n'
  | 'r' => some '\r'
  | 't' => some '\t'
  | 'v' => some '\x0b'
  | _ => none

/-- The character that an escape between single quotes stands for. -/
def singleEscape? : Char → Option Char
  | '\\' => some '\\'
  | '\'' => some '\''
  | _ => none

/-- The text with its escapes replaced; a backslash before another character stays. -/
def unescaped (escape? : Char → Option Char) : List Char → List Char
  | '\\' :: c :: rest =>
    match escape? c with
    | some meant => meant :: unescaped escape? rest
    | none => '\\' :: unescaped escape? (c :: rest)
  | c :: rest => c :: unescaped escape? rest
  | [] => []

/-- The text before the first comment that has a blank in front of it. -/
def beforeComment : List Char → List Char
  | [] => []
  | c :: rest =>
    if Text.isBlank c ∧ (rest.dropWhile Text.isBlank).head? = some '#' then []
    else c :: beforeComment rest

/-- The value after an equals sign, and the rest.  Blanks before a value without quotes
are no part of it, but a comment may follow them. -/
def value? (text : List Char) : Option (List Char × List Char) :=
  match text.dropWhile isSpace with
  | '\'' :: rest =>
    (untilQuote? '\'' rest).map fun (body, after) => (unescaped singleEscape? body, after)
  | '"' :: rest =>
    (untilQuote? '"' rest).map fun (body, after) => (unescaped doubleEscape? body, after)
  | _ =>
    let (line, after) := text.span (· ≠ '\n')
    some (Text.trimmed Text.isBlank (beforeComment line), after)

/-! ## Lines -/

/-- The text after the end of a line, before which there may be a comment. -/
def lineEnd? (text : List Char) : Option (List Char) :=
  let afterSpace := text.dropWhile isSpace
  let atEnd := match afterSpace with
    | '#' :: rest => rest.dropWhile (· ≠ '\n')
    | rest => rest
  match atEnd with
  | [] => some []
  | '\n' :: rest => some rest
  | _ => none

/-- A binding at the start of the text, which is not blank, and the rest. -/
def binding (text : List Char) : Option Binding × List Char :=
  let start := afterExport text
  match name? start with
  | none => (none, afterLine start)
  | some (name, afterName) =>
    match afterName.dropWhile isSpace with
    | '=' :: rest =>
      match value? rest with
      | none => (none, afterLine rest)
      | some (value, afterValue) =>
        match lineEnd? afterValue with
        | none => (none, afterLine afterValue)
        | some rest => (name.map fun name => (String.ofList name, some (String.ofList value)), rest)
    | rest =>
      match lineEnd? rest with
      | none => (none, afterLine rest)
      | some rest => (name.map fun name => (String.ofList name, none), rest)

/-- At most the given number of bindings. -/
def bindings : Nat → List Char → List Binding
  | 0, _ => []
  | fuel + 1, text =>
    match text.dropWhile Text.isBlank with
    | [] => []
    | start =>
      let (found, rest) := binding start
      found.toList ++ bindings fuel rest

/-- The text without the byte order mark that it may start with. -/
def withoutMark : List Char → List Char
  | '\ufeff' :: rest => rest
  | text => text

/-- The bindings of a file. -/
def parse (text : String) : List Binding :=
  let content := withLineFeeds (withoutMark text.toList)
  bindings content.length content

end VisualNovel.EnvFile
