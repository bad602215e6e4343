import VisualNovel.Json.Value

/-!
# Room for nested values

JSON is read and written by calls within calls, one within the other for each array and object
within another one, and the stack for calls is limited.  How deeply a value may nest depends on
what the stack holds already, so it differs from one place of the program to the other.

Nothing is said about how the places compare.  Where the reader or the writer of messages is at
work, all that counts is how many arrays and objects lie within one another (`Room.depth`).  The
writer of documents and the encoder of replies are different: they take room for what lies in the
innermost ones, too, and it depends on what this is.  So of these it is said only what goes through
them at all (`Room.stores`, `Room.sends`).
-/

namespace VisualNovel.Json

/-- The places where JSON is read, or written as a message. -/
inductive Place where
  /-- Where the files are read that are imported. -/
  | imported
  /-- Where one document is read. -/
  | document
  /-- Where all documents of a collection are read. -/
  | collection
  /-- Where a client writes a request. -/
  | request
  /-- Where the server reads a request. -/
  | body
  /-- Where a client reads a response. -/
  | response
  deriving DecidableEq, Repr

/-- The room that there is for values that nest.  Everywhere it is enough for four levels, and what
the program itself makes does not nest more deeply than that. -/
class Room where
  /-- How many arrays and objects may lie within one another at a place. -/
  depth : Place → Nat
  /-- Is there room to write the value as a document? -/
  stores : Json → Bool
  /-- Is there room to encode the value as a reply? -/
  sends : Json → Bool
  four_le_depth : ∀ place, 4 ≤ depth place
  stores_of_nesting_le : ∀ {value}, nesting value ≤ 4 → stores value = true
  sends_of_nesting_le : ∀ {value}, nesting value ≤ 4 → sends value = true
  /-- The items of a list are encoded one after the other, from the same depth. -/
  sends_list : ∀ name items, sends (.obj [(name, .arr items)]) =
    items.all fun item => sends (.obj [(name, .arr [item])])

namespace Room

/-- As many arrays and objects as this within one another are usual. -/
def usualDepth : Nat := 960

/-- The room there is if nothing else is said: the usual depth, everywhere. -/
instance (priority := low) usual : Room where
  depth _ := usualDepth
  stores value := nesting value ≤ usualDepth
  sends value := nesting value ≤ usualDepth
  four_le_depth _ := by decide
  stores_of_nesting_le hnesting := decide_eq_true (Nat.le_trans hnesting (by decide))
  sends_of_nesting_le hnesting := decide_eq_true (Nat.le_trans hnesting (by decide))
  sends_list name items := by
    have hitems : ∀ items : List Json, nesting (.obj [(name, .arr items)]) ≤ usualDepth ↔
        ∀ item ∈ items, nesting item ≤ usualDepth - 2 := fun items => by
      rw [nesting_singleton, nesting, ← itemsNesting_le_iff]
      exact (Nat.le_sub_iff_add_le (by decide : 2 ≤ usualDepth)).symm
    rw [Bool.eq_iff_iff, List.all_eq_true, decide_eq_true_eq, hitems]
    refine forall_congr' fun item => imp_congr_right fun _ => ?_
    rw [decide_eq_true_eq, hitems, List.forall_mem_singleton]

end Room

end VisualNovel.Json
