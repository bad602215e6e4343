import VisualNovel.Stage.Basic

/-!
# Events

An event tells the player's screen about one change.  The screen never sees the
stage itself: the events are all that it needs to draw it.

Events that come from outside are records, a type with parts that may all be absent.
`Event.toRecord` is the record of an event, and `EventRecord.describe` the line that
a terminal shows for it.
-/

namespace VisualNovel

/-- A single change of what the player sees. -/
inductive Event where
  /-- There is another background. -/
  | background (id address : String)
  /-- A character is shown, or shown otherwise. -/
  | portraitShown (character expression position address : String)
  /-- A character has left. -/
  | portraitHidden (character : String)
  /-- Somebody says something; the other characters on the stage are inactive. -/
  | dialogue (character speaker text : String) (inactive : List String)
  /-- An image covers the stage. -/
  | overlayShown (address : String)
  /-- The image is gone. -/
  | overlayHidden
  /-- The story is over. -/
  | storyEnd
  deriving DecidableEq, Repr

/-- The types of events. -/
inductive EventType where
  | background | portraitShown | portraitHidden | dialogue | overlayShown | overlayHidden
  | storyEnd
  deriving DecidableEq, Repr

namespace EventType

/-- The word for a type. -/
def word : EventType → String
  | background => "background"
  | portraitShown => "portrait_show"
  | portraitHidden => "portrait_hide"
  | dialogue => "dialogue"
  | overlayShown => "overlay_show"
  | overlayHidden => "overlay_hide"
  | storyEnd => "story_end"

/-- All types. -/
def all : List EventType :=
  [background, portraitShown, portraitHidden, dialogue, overlayShown, overlayHidden, storyEnd]

/-- The type that a word stands for. -/
def ofWord? (word : String) : Option EventType :=
  all.find? fun type => type.word = word

end EventType

/-- An event as a record: its type, and parts that may be absent. -/
structure EventRecord where
  type : EventType
  character : Option String := none
  expression : Option String := none
  position : Option String := none
  address : Option String := none
  background : Option String := none
  speaker : Option String := none
  text : Option String := none
  inactive : List String := []
  deriving DecidableEq, Repr

namespace EventRecord

namespace Part

/-- The type. -/
def type : Field := .plain "type"

/-- The id of a character. -/
def character : Field := .plain "character_id"

/-- The id of an expression. -/
def expression : Field := .plain "expression_id"

/-- Where a portrait stands. -/
def position : Field := .plain "position"

/-- Where an image is. -/
def address : Field := .plain "url"

/-- The background, as the script names it. -/
def background : Field := .plain "background_id"

/-- The name of who speaks. -/
def speaker : Field := .plain "speaker"

/-- What is said. -/
def text : Field := .plain "text"

/-- The ids of the characters that do not speak. -/
def inactive : Field := .plain "inactive"

end Part

/-- An event. -/
def read : Reader EventRecord :=
  Reader.record fun fields =>
    EventRecord.mk <$> Part.type.required (Reader.oneOf EventType.ofWord?) fields
      <*> Part.character.optional none (Reader.nullable Reader.text) fields
      <*> Part.expression.optional none (Reader.nullable Reader.text) fields
      <*> Part.position.optional none (Reader.nullable Reader.text) fields
      <*> Part.address.optional none (Reader.nullable Reader.text) fields
      <*> Part.background.optional none (Reader.nullable Reader.text) fields
      <*> Part.speaker.optional none (Reader.nullable Reader.text) fields
      <*> Part.text.optional none (Reader.nullable Reader.text) fields
      <*> Part.inactive.optional [] (Reader.list Reader.text) fields

/-- The event as a record. -/
def toJson (style : Dump) (event : EventRecord) : Json :=
  style.record
    [(Part.type, .str event.type.word), (Part.character, Dump.optionalText event.character),
     (Part.expression, Dump.optionalText event.expression),
     (Part.position, Dump.optionalText event.position),
     (Part.address, Dump.optionalText event.address),
     (Part.background, Dump.optionalText event.background),
     (Part.speaker, Dump.optionalText event.speaker),
     (Part.text, Dump.optionalText event.text),
     (Part.inactive, .arr (event.inactive.map Json.str))]

/-! ## Lines of a terminal -/

/-- What a line says at the place of a part that may be absent. -/
def shown : Option String → String
  | none => "None"
  | some text => text

/-- The line for an event; it may be empty. -/
def describe (event : EventRecord) : String :=
  match event.type with
  | .background => "[background: " ++ shown event.background ++ "]"
  | .portraitShown =>
    "[" ++ shown event.character ++ " (" ++ shown event.expression ++ ") enters at " ++
      shown event.position ++ "]"
  | .portraitHidden => "[" ++ shown event.character ++ " leaves]"
  | .dialogue =>
    match event.speaker with
    | none | some "" => event.text.getD ""
    | some speaker => speaker ++ ": " ++ shown event.text
  | .overlayShown => "[image: " ++ shown event.address ++ "]"
  | .overlayHidden => "[image closed]"
  | .storyEnd => "The story has come to a close."

/-- The lines for some events.  An event whose line is empty has none. -/
def lines (events : List EventRecord) : List String :=
  (events.map describe).filter fun line => !line.isEmpty

end EventRecord

namespace Event

/-- The event as a record. -/
def toRecord : Event → EventRecord
  | background id address =>
    { type := .background, background := some id, address := some address }
  | portraitShown character expression position address =>
    { type := .portraitShown, character := some character, expression := some expression,
      position := some position, address := some address }
  | portraitHidden character => { type := .portraitHidden, character := some character }
  | dialogue character speaker text inactive =>
    { type := .dialogue, character := some character, speaker := some speaker,
      text := some text, inactive := inactive }
  | overlayShown address => { type := .overlayShown, address := some address }
  | overlayHidden => { type := .overlayHidden }
  | storyEnd => { type := .storyEnd }

/-- The lines that a terminal shows for some events. -/
def lines (events : List Event) : List String :=
  EventRecord.lines (events.map toRecord)

end Event

end VisualNovel
