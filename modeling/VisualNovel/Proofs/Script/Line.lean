import VisualNovel.Proofs.Http.Published
import VisualNovel.Proofs.Record.Reading
import VisualNovel.Proofs.Store.Documents
import VisualNovel.Proofs.Store.Ids
import VisualNovel.Script.Command

/-!
# Script lines

A script line is an object with a number, up to four texts, and any further fields.  It has an id
under which it can be kept.  If it gets through a reply, it is read as a command, and without the
fields that are kept back it is read as the same command.

The commands of lines with different numbers are sorted in one way only, so it does not matter
in which order the lines come.
-/

namespace VisualNovel

open Json

/-! ## Texts that may be missing -/

/-- Is there a text, or nothing that would have to be one? -/
def mayBeText : Option Json → Bool
  | none | some .null | some (.str _) => true
  | some _ => false

/-- The text that is there, or the empty one. -/
def textOf : Option Json → String
  | some (.str text) => text
  | _ => ""

theorem mayBeText_cases {found : Option Json} (htext : mayBeText found = true) :
    found = none ∨ found = some .null ∨ ∃ text, found = some (.str text) := by
  unfold mayBeText at htext
  split at htext
  · exact Or.inl rfl
  · exact Or.inr (Or.inl rfl)
  · exact Or.inr (Or.inr ⟨_, rfl⟩)
  · cases htext

theorem map_published_of_mayBeText {found : Option Json} (htext : mayBeText found = true) :
    found.map Http.published = found := by
  rcases mayBeText_cases htext with rfl | rfl | ⟨text, rfl⟩ <;> rfl

/-- The fields of a line that are texts. -/
def ScriptLine.textFields : List String := ["command", "param1", "param2", "param3"]

/-- A line of a script. -/
structure ScriptLine where
  fields : Fields
  order : Int
  order_eq : OrderedMap.at? "order" fields = some (.int order)
  /-- The number fits the name of a file. -/
  short : (Numeral.ofInt order).length ≤ 250
  texts : ∀ name ∈ ScriptLine.textFields, mayBeText (OrderedMap.at? name fields) = true
  /-- The text of the line tells all of it. -/
  plain : isPlain (.obj fields) = true

namespace ScriptLine

variable {lines : List ScriptLine}

/-- The value that the line is. -/
def value (line : ScriptLine) : Json := .obj line.fields

/-- The id of the line. -/
def id (line : ScriptLine) : String := DocumentId.ofOrder (.int line.order)

/-- The line as it is kept. -/
def document (line : ScriptLine) : String × Json := (line.id, line.value)

/-- The command that the line is. -/
def command (line : ScriptLine) : Command where
  order := line.order
  kind := textOf (OrderedMap.at? "command" line.fields)
  param1 := textOf (OrderedMap.at? "param1" line.fields)
  param2 := textOf (OrderedMap.at? "param2" line.fields)
  param3 := textOf (OrderedMap.at? "param3" line.fields)

/-! ## Reading -/

theorem startsWith_of_mem {name : String} (hname : name ∈ "order" :: textFields) :
    name.startsWith "_sa" = false := by
  revert name
  decide +kernel

theorem at?_published (line : ScriptLine) {name : String} (hname : name ∈ "order" :: textFields) :
    OrderedMap.at? name (Http.publishedFields line.fields) = OrderedMap.at? name line.fields := by
  rw [Http.at?_publishedFields (startsWith_of_mem hname)]
  rcases List.mem_cons.mp hname with rfl | htext
  · rw [line.order_eq]
    rfl
  · exact map_published_of_mayBeText (line.texts name htext)

theorem optional_text (line : ScriptLine) {fields : Fields} {name : String}
    (hname : name ∈ textFields)
    (hsame : OrderedMap.at? name fields = OrderedMap.at? name line.fields) :
    (Field.plain name).optional "" Command.readText fields =
      .accepted (textOf (OrderedMap.at? name line.fields)) := by
  have hfind := Field.find?_plain fields name
  rw [hsame] at hfind
  rcases mayBeText_cases (line.texts name hname) with hfound | hfound | ⟨text, hfound⟩
  · rw [hfound] at hfind ⊢
    exact Field.optional_of_absent hfind
  · rw [hfound] at hfind ⊢
    exact Field.optional_of_find? hfind rfl
  · rw [hfound] at hfind ⊢
    exact Field.optional_of_find? hfind rfl

theorem read_fields (line : ScriptLine) {fields : Fields}
    (hsame : ∀ name ∈ "order" :: textFields,
      OrderedMap.at? name fields = OrderedMap.at? name line.fields) :
    Command.read (.obj fields) = .accepted line.command := by
  have horder : Command.Part.order.optional 0 Command.readOrder fields = .accepted line.order := by
    have hfound : OrderedMap.at? "order" fields = some (.int line.order) :=
      (hsame "order" (by decide)).trans line.order_eq
    exact Field.optional_of_find? (Field.find?_of_wire hfound) rfl
  have htext : ∀ name ∈ textFields, (Field.plain name).optional "" Command.readText fields =
      .accepted (textOf (OrderedMap.at? name line.fields)) := by
    intro name hname
    exact line.optional_text hname (hsame name (List.mem_cons_of_mem _ hname))
  show (Command.mk <$> Command.Part.order.optional 0 Command.readOrder fields
    <*> (Field.plain "command").optional "" Command.readText fields
    <*> (Field.plain "param1").optional "" Command.readText fields
    <*> (Field.plain "param2").optional "" Command.readText fields
    <*> (Field.plain "param3").optional "" Command.readText fields) = _
  rw [horder, htext _ (by decide), htext _ (by decide), htext _ (by decide), htext _ (by decide)]
  rfl

theorem read_value (line : ScriptLine) : Command.read line.value = .accepted line.command :=
  line.read_fields fun _ _ => rfl

theorem read_published (line : ScriptLine) :
    Command.read (Http.published line.value) = .accepted line.command :=
  line.read_fields fun _ hname => line.at?_published hname

theorem script_of_read {record : ScriptLine → Json}
    (hread : ∀ line ∈ lines, Command.read (record line) = .accepted line.command) :
    Command.script (.arr (lines.map record)) = .ok (Command.sorted (lines.map command)) := by
  have hcollection : Command.read.collection "Command" (.arr (lines.map record)) =
      .ok (lines.map command) := Reader.collection_of_accepted "Command" hread
  rw [Command.script, hcollection]
  rfl

/-! ## Keeping -/

theorem ofLine_value (line : ScriptLine) : DocumentId.ofLine line.value = .ok line.id :=
  DocumentId.ofLine_of_order line.order_eq

theorem identified (hdistinct : (lines.map order).Nodup) :
    Store.Identified (lines.map document) := by
  refine ⟨?_, ?_, ?_⟩
  · intro entry hmem
    obtain ⟨line, -, rfl⟩ := List.mem_map.mp hmem
    exact DocumentId.isKey_ofOrder line.order
  · intro entry hmem
    obtain ⟨line, -, rfl⟩ := List.mem_map.mp hmem
    have hshort := line.short
    have hlimit : FileTree.nameLimit = 255 := rfl
    have hlength : line.document.1.length = max 5 (Numeral.ofInt line.order).length :=
      DocumentId.length_ofOrder line.order
    omega
  · rw [List.map_map]
    rw [List.nodup_iff_pairwise_ne, List.pairwise_map] at hdistinct ⊢
    refine hdistinct.imp ?_
    intro first second hne heq
    exact hne (DocumentId.ofOrder_injective heq)

end ScriptLine

/-! ## The order of the commands -/

/-- The commands of lines with different numbers do not depend on the order of the lines. -/
theorem ScriptLine.sorted_eq_of_perm {lines permuted : List ScriptLine}
    (hperm : lines.Perm permuted) (hdistinct : (lines.map ScriptLine.order).Nodup) :
    Command.sorted (lines.map command) = Command.sorted (permuted.map command) := by
  refine sorted_by_eq_of_perm Command.order (hperm.map command) ?_
  rw [List.map_map]
  exact hdistinct

end VisualNovel
