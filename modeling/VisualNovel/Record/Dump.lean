import VisualNovel.Record.Checked

/-!
# Records as values

A record is written as an object with a field for each of its parts, under the
names that are in use inside or on the wire, and with or without the parts that are
absent.
-/

namespace VisualNovel

/-- How records are written. -/
structure Dump where
  /-- Are fields named as on the wire? -/
  wireNames : Bool
  /-- Are absent parts written as null? -/
  absent : Bool

namespace Dump

/-- All parts, under the names in use inside. -/
def inside : Dump := ⟨false, true⟩

/-- The parts that are there, under the names in use on the wire. -/
def wire : Dump := ⟨true, false⟩

/-- The name of a field. -/
def nameOf (style : Dump) (field : Field) : String :=
  if style.wireNames then field.wire else field.name

/-- A record with the given parts. -/
def record (style : Dump) (parts : List (Field × Json)) : Json :=
  let kept := parts.filter fun part => style.absent || decide (part.2 ≠ .null)
  .obj (kept.map fun part => (style.nameOf part.1, part.2))

/-- A text that may be absent. -/
def optionalText : Option String → Json
  | none => .null
  | some text => .str text

/-- The values of a map. -/
def map {α : Type} (write : α → Json) (entries : OrderedMap String α) : Json :=
  .obj (entries.map fun entry => (entry.1, write entry.2))

end Dump

end VisualNovel
