import VisualNovel.Json.Value
import VisualNovel.Text.Unpaired

/-!
# Checked records

A record that comes from outside is checked before it is used.  A check does not
stop at the first fault: it reports every fault of every field, in the order of the
fields, each with the path that leads to it.

`Checked` is the result of a check.  As an applicative functor it collects the
faults of its parts; a record is checked by naming its constructor and a reader for
every field.
-/

namespace VisualNovel

/-- A step into a value: to a field of an object or to an item of an array. -/
inductive Step where
  | key (name : String)
  | index (position : Nat)
  deriving DecidableEq, Repr

/-- What is wrong with a value. -/
inductive Cause where
  /-- A required field is absent. -/
  | missing
  /-- The value of a record is not an object. -/
  | notRecord
  /-- The value is not a text. -/
  | notText
  /-- The text that is to be read as something else holds an unpaired unit. -/
  | notUnicode
  /-- The value is of a kind that cannot stand for a whole number. -/
  | notWhole
  /-- The text is no numeral of a whole number. -/
  | notNumeral
  /-- The whole number is too large to be read. -/
  | tooLarge
  /-- The double has a fractional part. -/
  | fractional
  /-- The double is infinite or not a number. -/
  | notFinite
  /-- The value is of a kind that cannot stand for a double. -/
  | notReal
  /-- The text is no numeral of a double. -/
  | notDecimal
  /-- The value is not an array. -/
  | notList
  /-- The value of a map is not an object. -/
  | notMap
  /-- The value is none of those that are allowed. -/
  | notAllowed
  /-- The whole number is negative. -/
  | negative
  deriving DecidableEq, Repr

/-- Something wrong, and the path that leads to it. -/
structure Fault where
  path : List Step
  cause : Cause
  deriving DecidableEq, Repr

/-- The result of a check: a value, or the faults that were found. -/
inductive Checked (α : Type) where
  | accepted (value : α)
  | refused (faults : List Fault)
  deriving DecidableEq, Repr

namespace Checked

variable {α β : Type}

/-- Change the value of a check that succeeds. -/
def map (f : α → β) : Checked α → Checked β
  | accepted value => accepted (f value)
  | refused faults => refused faults

/-- Apply a checked function to a checked value; the faults of both are kept. -/
def ap : Checked (α → β) → Checked α → Checked β
  | accepted f, accepted value => accepted (f value)
  | accepted _, refused faults => refused faults
  | refused faults, accepted _ => refused faults
  | refused faults, refused more => refused (faults ++ more)

/-- A further check of a value that was accepted. -/
def andThen (check : α → Checked β) : Checked α → Checked β
  | accepted value => check value
  | refused faults => refused faults

instance : Applicative Checked where
  pure := accepted
  map := map
  seq f x := ap f (x ())

/-- Refusal for one reason. -/
def fault (cause : Cause) : Checked α := refused [⟨[], cause⟩]

/-- The check of a part that is one step inside. -/
def within (step : Step) : Checked α → Checked α
  | accepted value => accepted value
  | refused faults => refused (faults.map fun fault => ⟨step :: fault.path, fault.cause⟩)

/-- The value, if it was accepted. -/
def accepted? : Checked α → Option α
  | accepted value => some value
  | refused _ => none

@[simp] theorem map_accepted (f : α → β) (value : α) :
    f <$> accepted value = accepted (f value) := rfl

@[simp] theorem map_refused (f : α → β) (faults : List Fault) :
    f <$> (refused faults : Checked α) = refused faults := rfl

@[simp] theorem seq_accepted (f : α → β) (value : α) :
    accepted f <*> accepted value = accepted (f value) := rfl

@[simp] theorem pure_eq_accepted (value : α) : (pure value : Checked α) = accepted value := rfl

theorem seq_eq_accepted_iff {f : Checked (α → β)} {x : Checked α} {b : β} :
    f <*> x = accepted b ↔ ∃ g a, f = accepted g ∧ x = accepted a ∧ g a = b := by
  show ap f x = accepted b ↔ _
  cases f <;> cases x <;> simp [ap]

theorem map_eq_accepted_iff {f : α → β} {x : Checked α} {b : β} :
    f <$> x = accepted b ↔ ∃ a, x = accepted a ∧ f a = b := by
  show map f x = accepted b ↔ _
  cases x <;> simp [map]

end Checked

/-- A check of the values of one kind. -/
abbrev Reader (α : Type) : Type := Json → Checked α

/-- The fields of an object. -/
abbrev Fields : Type := OrderedMap String Json

/-- A field of a record: its own name, and the name that it has in messages.  Either is
understood, and the second one wins. -/
structure Field where
  name : String
  wire : String

/-- A field that has the same name everywhere. -/
def Field.plain (name : String) : Field := ⟨name, name⟩

namespace Field

variable {α : Type}

/-- The name under which a field is there, and its value. -/
def find? (field : Field) (fields : Fields) : Option (String × Json) :=
  match OrderedMap.at? field.wire fields with
  | some value => some (field.wire, value)
  | none => (OrderedMap.at? field.name fields).map fun value => (field.name, value)

/-- A field that has to be there. -/
def required (field : Field) (read : Reader α) (fields : Fields) : Checked α :=
  match field.find? fields with
  | some (name, value) => (read value).within (.key name)
  | none => .refused [⟨[.key field.wire], .missing⟩]

/-- A field that may be absent. -/
def optional (field : Field) (absent : α) (read : Reader α) (fields : Fields) : Checked α :=
  match field.find? fields with
  | some (name, value) => (read value).within (.key name)
  | none => .accepted absent

end Field

namespace Reader

variable {α : Type}

/-- An object that is read field by field. -/
def record (read : Fields → Checked α) : Reader α
  | .obj fields => read fields
  | _ => .fault .notRecord

/-- An absent value, or one that is read. -/
def nullable (read : Reader α) : Reader (Option α)
  | .null => .accepted none
  | value => some <$> read value

/-- The items of an array from the given position on. -/
def itemsFrom (read : Reader α) (position : Nat) : List Json → Checked (List α)
  | [] => .accepted []
  | item :: rest =>
    List.cons <$> (read item).within (.index position) <*> itemsFrom read (position + 1) rest

/-- An array, every item of which is read. -/
def list (read : Reader α) : Reader (List α)
  | .arr items => itemsFrom read 0 items
  | _ => .fault .notList

/-- The fields of an object, every value of which is read.  Any text is a key. -/
def entries (read : Reader α) : List (String × Json) → Checked (OrderedMap String α)
  | [] => .accepted []
  | (key, value) :: rest =>
    (fun found others => (key, found) :: others)
      <$> (read value).within (.key (Text.withoutUnits key))
      <*> entries read rest

/-- An object with any keys, every value of which is read. -/
def map (read : Reader α) : Reader (OrderedMap String α)
  | .obj fields => entries read fields
  | _ => .fault .notMap

end Reader

end VisualNovel
