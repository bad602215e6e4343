import VisualNovel.Text.Digit
import VisualNovel.Text.Quoted

/-!
# Command lines

The launcher is told what to do by switches.  A switch that begins with two hyphens may
be shortened as long as it is not mistaken for another one, and takes its value from the
next word or after an equals sign.  Switches of one letter may be written together.

All words are classified first, and the words after `--` are none of them switches.
Then the switches are carried out from the left: the first fault ends this, and so does
a request for help.  Words that nothing takes are complained about at the end.
-/

namespace VisualNovel

/-- What can be told on the command line. -/
inductive Switch where
  | help | dataDirectory | demo | importDirectory | tenant | play | name | load | verbose
  deriving DecidableEq, Repr

namespace Switch

/-- How a switch is written. -/
def spellings : Switch → List String
  | help => ["-h", "--help"]
  | dataDirectory => ["--data-dir"]
  | demo => ["--demo"]
  | importDirectory => ["--import-dir"]
  | tenant => ["--tenant"]
  | play => ["--play"]
  | name => ["--name"]
  | load => ["--load"]
  | verbose => ["-v", "--verbose"]

/-- All switches. -/
def all : List Switch :=
  [help, dataDirectory, demo, importDirectory, tenant, play, name, load, verbose]

/-- All spellings, with what they mean. -/
def table : List (String × Switch) :=
  all.flatMap fun switch => switch.spellings.map fun spelling => (spelling, switch)

/-- The switch that is written in this way. -/
def ofSpelling? (spelling : String) : Option Switch :=
  (table.find? fun entry => entry.1 = spelling).map Prod.snd

/-- Does the switch need a value? -/
def takesValue : Switch → Bool
  | dataDirectory | importDirectory | tenant | name | load => true
  | _ => false

/-- The name of a switch in messages. -/
def title (switch : Switch) : String := "/".intercalate switch.spellings

end Switch

/-- What is wrong with a command line. -/
inductive UsageFault where
  /-- A shortened switch could be one of several. -/
  | ambiguous (word : String) (spellings : List String)
  /-- A switch has no value. -/
  | noValue (switch : Switch)
  /-- A switch has a value that it does not take. -/
  | strayValue (switch : Switch) (value : String)
  /-- Nothing takes the words. -/
  | unrecognized (words : List String)
  deriving DecidableEq, Repr

/-- The message about a fault. -/
def UsageFault.message : UsageFault → String
  | ambiguous word spellings =>
    "ambiguous option: " ++ word ++ " could match " ++ ", ".intercalate spellings
  | noValue switch => "argument " ++ switch.title ++ ": expected one argument"
  | strayValue switch value =>
    "argument " ++ switch.title ++ ": ignored explicit argument " ++ Text.quoted value
  | unrecognized words => "unrecognized arguments: " ++ " ".intercalate words

/-- What the command line says. -/
structure Arguments where
  dataDirectory : Option String := none
  demo : Bool := false
  importDirectory : Option String := none
  tenant : Option String := none
  play : Bool := false
  name : Option String := none
  load : Option String := none
  verbose : Bool := false
  deriving DecidableEq, Repr

namespace Arguments

/-! ## Words -/

/-- A word of the command line. -/
inductive Word where
  /-- A word that is no switch. -/
  | plain (text : String)
  /-- The word after which there are no switches. -/
  | terminator
  /-- A switch, and the value that is attached to it.  A switch of one letter may have more
  letters attached. -/
  | switch (switch : Switch) (letter : Bool) (attached : Option String)
  /-- A word that looks like a switch and is none. -/
  | unknown (text : String)
  deriving DecidableEq, Repr

/-- The text of a word that nothing takes. -/
def Word.text : Word → String
  | .plain text => text
  | .terminator => "--"
  | .switch asked _ _ => asked.title
  | .unknown text => text

/-- The text before the first equals sign, and the text after it if there is one. -/
def splitValue (word : String) : String × Option String :=
  match word.toList.span (· ≠ '=') with
  | (before, _ :: after) => (String.ofList before, some (String.ofList after))
  | (before, []) => (String.ofList before, none)

/-- Is the text, apart from a line break at its end, a negative number?  Digits of all
scripts count. -/
def isNegativeNumber (text : List Char) : Bool :=
  let line := if text.getLast? = some '\n' then text.dropLast else text
  match line with
  | '-' :: digits =>
    match digits.span Text.isDecimalDigit with
    | (whole, []) => !whole.isEmpty
    | (_, '.' :: fraction) => !fraction.isEmpty && fraction.all Text.isDecimalDigit
    | _ => false
  | _ => false

/-- The switches that a word may be short for, each with its spelling. -/
def candidates (word : String) : List (String × Word) :=
  if word.startsWith "--" then
    let (start, value) := splitValue word
    (Switch.table.filter fun entry => entry.1.startsWith start).map fun (spelling, switch) =>
      (spelling, .switch switch false value)
  else
    let letter := (word.take 2).toString
    (Switch.table.filter fun entry => entry.1 = letter).map fun (spelling, switch) =>
      (spelling, .switch switch true (some (word.drop 2).toString))

/-- What a word is that is no switch in full. -/
def classifyRest (word : String) : Except UsageFault Word :=
  match candidates word with
  | [(_, found)] => .ok found
  | [] =>
    if isNegativeNumber word.toList || word.toList.contains ' ' then .ok (.plain word)
    else .ok (.unknown word)
  | several => .error (.ambiguous word (several.map Prod.fst))

/-- What a word is. -/
def classify (word : String) : Except UsageFault Word :=
  if !word.startsWith "-" || word = "-" then .ok (.plain word)
  else
    let isLetter (spelling : String) : Bool := !spelling.startsWith "--"
    match Switch.ofSpelling? word with
    | some switch => .ok (.switch switch (isLetter word) none)
    | none =>
      match splitValue word with
      | (spelling, some value) =>
        match Switch.ofSpelling? spelling with
        | some switch => .ok (.switch switch (isLetter spelling) (some value))
        | none => classifyRest word
      | _ => classifyRest word

/-- What the words of a command line are. -/
def classifyAll : List String → Except UsageFault (List Word)
  | [] => .ok []
  | "--" :: rest => .ok (.terminator :: rest.map .plain)
  | word :: rest => do
    let first ← classify word
    let others ← classifyAll rest
    .ok (first :: others)

/-! ## Carrying out switches -/

/-- A value; two hyphens alone are none. -/
def valueOf (text : String) : Option String := if text = "--" then none else some text

/-- Note the value of a switch. -/
def note (arguments : Arguments) (value : String) : Switch → Arguments
  | .dataDirectory => { arguments with dataDirectory := valueOf value }
  | .importDirectory => { arguments with importDirectory := valueOf value }
  | .tenant => { arguments with tenant := valueOf value }
  | .name => { arguments with name := valueOf value }
  | .load => { arguments with load := valueOf value }
  | _ => arguments

/-- Note a switch without a value; there is nothing more to note after a request for
help. -/
def turnOn (arguments : Arguments) : Switch → Option Arguments
  | .demo => some { arguments with demo := true }
  | .play => some { arguments with play := true }
  | .verbose => some { arguments with verbose := true }
  | .help => none
  | _ => some arguments

/-- The switches of a letter and the letters attached to it. -/
def letters (first : Switch) : List Char → Except UsageFault (List Switch)
  | [] => .ok [first]
  | c :: rest =>
    match Switch.ofSpelling? (String.ofList ['-', c]) with
    | none => .error (.strayValue first (String.ofList (c :: rest)))
    | some next => (letters next rest).map (first :: ·)

/-- The outcome of reading a command line. -/
inductive Reading where
  | read (arguments : Arguments)
  | help
  | wrong (fault : UsageFault)
  deriving DecidableEq, Repr

/-- Carry out the switches among some words; `extras` are the words before them that
nothing takes. -/
def carryOut (arguments : Arguments) (extras : List String) : List Word → Reading
  | [] => if extras.isEmpty then .read arguments else .wrong (.unrecognized extras)
  | .switch switch letter attached :: rest =>
    if switch.takesValue then
      match attached, rest with
      | some value, rest => carryOut (arguments.note value switch) extras rest
      | none, .plain value :: rest => carryOut (arguments.note value switch) extras rest
      | none, _ => .wrong (.noValue switch)
    else
      let switches : Except UsageFault (List Switch) := match attached with
        | none => .ok [switch]
        | some value =>
          if letter && !value.isEmpty then letters switch value.toList
          else .error (.strayValue switch value)
      match switches with
      | .error fault => .wrong fault
      | .ok switches =>
        match switches.foldlM turnOn arguments with
        | none => .help
        | some arguments => carryOut arguments extras rest
  | word :: rest => carryOut arguments (extras ++ [word.text]) rest

/-- Read a command line. -/
def parse (words : List String) : Reading :=
  match classifyAll words with
  | .error fault => .wrong fault
  | .ok words => carryOut {} [] words

end Arguments

end VisualNovel
