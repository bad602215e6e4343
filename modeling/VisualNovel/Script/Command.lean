import VisualNovel.Record.Dump
import VisualNovel.Record.Refusal
import VisualNovel.Record.Scalar

/-!
# Script commands

A line of the script is a command: its place in the order, its kind, and up to three
texts whose meaning depends on the kind.  `Command.instruction` is what the command
asks for.

Commands are ordered by their number.  Numbers need not be unique, and commands of
one number keep the order in which they were given.
-/

namespace VisualNovel

/-- The portrait of a speaker with this id is never shown, and the name never told. -/
def narrator : String := "narrator"

/-- Where a portrait stands unless the script says otherwise. -/
def defaultPosition : String := "center"

/-- One line of the script. -/
structure Command where
  order : Int := 0
  kind : String := ""
  param1 : String := ""
  param2 : String := ""
  param3 : String := ""
  deriving DecidableEq, Repr

/-- What a command asks for. -/
inductive Instruction where
  /-- Show another background. -/
  | changeBackground (background : String)
  /-- Show a character, or show it otherwise. -/
  | showCharacter (character expression position : String)
  /-- Take a character off the stage. -/
  | hideCharacter (character : String)
  /-- Let somebody say something. -/
  | say (speaker text : String)
  /-- Show an image over the stage. -/
  | showImage (image : String)
  /-- Take the image away. -/
  | hideImage
  /-- Nothing that is known. -/
  | unknown
  deriving DecidableEq, Repr

namespace Command

/-- What the command asks for. -/
def instruction (command : Command) : Instruction :=
  if command.kind = "bg_change" then .changeBackground command.param1
  else if command.kind = "char_show" then
    .showCharacter command.param1 command.param2
      (if command.param3 = "" then defaultPosition else command.param3)
  else if command.kind = "char_hide" then .hideCharacter command.param1
  else if command.kind = "text" then .say command.param1 command.param2
  else if command.kind = "img_show" then .showImage command.param1
  else if command.kind = "img_hide" then .hideImage
  else .unknown

/-! ## Records -/

namespace Part

/-- The place in the order. -/
def order : Field := .plain "order"

/-- The kind. -/
def kind : Field := .plain "command"

/-- The first text. -/
def param1 : Field := .plain "param1"

/-- The second text. -/
def param2 : Field := .plain "param2"

/-- The third text. -/
def param3 : Field := .plain "param3"

end Part

/-- A place in the order; null and the empty text are the first one. -/
def readOrder : Reader Int
  | .null => .accepted 0
  | .str "" => .accepted 0
  | value => Reader.whole value

/-- A text; null is the empty one. -/
def readText : Reader String
  | .null => .accepted ""
  | value => Reader.text value

/-- A command. -/
def read : Reader Command :=
  Reader.record fun fields =>
    Command.mk <$> Part.order.optional 0 readOrder fields
      <*> Part.kind.optional "" readText fields
      <*> Part.param1.optional "" readText fields
      <*> Part.param2.optional "" readText fields
      <*> Part.param3.optional "" readText fields

/-- The command as a record. -/
def toJson (style : Dump) (command : Command) : Json :=
  style.record
    [(Part.order, .int command.order), (Part.kind, .str command.kind),
     (Part.param1, .str command.param1), (Part.param2, .str command.param2),
     (Part.param3, .str command.param3)]

/-! ## The order of a script -/

/-- The commands in the order of their numbers. -/
def sorted (commands : List Command) : List Command :=
  commands.mergeSort fun a b => a.order ≤ b.order

/-- What a command of a script is got from: a record, or a command that is there already. -/
inductive Source where
  | record (value : Json)
  | command (command : Command)

/-- The command that is got.  One that is there already is not checked again. -/
def Source.read : Source → Checked Command
  | .record value => Command.read value
  | .command found => .accepted found

/-- The commands of some sources, in the order of their numbers. -/
def scriptOf (sources : List Source) : Except Refusal (List Command) :=
  (sources.mapM fun source => (Source.read source).require "Command").map sorted

/-- The commands among the elements of a value, in the order of their numbers. -/
def script (records : Json) : Except CollectionFault (List Command) :=
  (read.collection "Command" records).map sorted

end Command

end VisualNovel
