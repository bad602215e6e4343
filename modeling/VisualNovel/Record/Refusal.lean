import VisualNovel.Record.Checked

/-!
# Refused records

A refusal names the kind of the record that was checked and the faults that were
found.  A collection of records is read one by one, and its first record with a
fault refuses all of it.
-/

namespace VisualNovel

/-- The kind of a record and what is wrong with it. -/
structure Refusal where
  record : String
  faults : List Fault
  deriving DecidableEq, Repr

/-- Why a collection of records is not read. -/
inductive CollectionFault where
  /-- The value has no elements. -/
  | notIterable
  /-- An element is refused. -/
  | invalid (refusal : Refusal)
  deriving DecidableEq, Repr

variable {α : Type}

/-- The value of a check, or the refusal of a record of the given kind. -/
def Checked.require (record : String) : Checked α → Except Refusal α
  | .accepted value => .ok value
  | .refused faults => .error ⟨record, faults⟩

/-- The records among the elements of a value, the first refused one refusing all. -/
def Reader.collection (record : String) (read : Reader α) (value : Json) :
    Except CollectionFault (List α) :=
  match value.elements? with
  | none => .error .notIterable
  | some elements =>
    (elements.mapM fun element => (read element).require record).mapError .invalid

end VisualNovel
