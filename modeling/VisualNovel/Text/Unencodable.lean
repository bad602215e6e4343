import VisualNovel.Text.Quoted

/-!
# Texts without an encoding

A text with unpaired units has no encoding in UTF-8.  What asks for one gets a fault instead:
it names the first run of units in the text, as the encoder gives up there.
-/

namespace VisualNovel.Text

/-- Why a text has no encoding: the first character in it that stands for a unit, its place, and
how many more follow it at once. -/
structure Unencodable where
  first : Char
  position : Nat
  more : Nat := 0
  deriving DecidableEq, Repr

/-- The text of the fault. -/
def Unencodable.message (fault : Unencodable) : String :=
  let place :=
    if fault.more = 0 then
      "character '" ++ String.ofList (codeEscape fault.first) ++ "' in position " ++
        toString fault.position
    else
      "characters in position " ++ toString fault.position ++ "-" ++
        toString (fault.position + fault.more)
  "'utf-8' codec can't encode " ++ place ++ ": surrogates not allowed"

/-- The first run of units in some characters of a text, the first of which has a place. -/
def unencodableFrom? (position : Nat) : List Char → Option Unencodable
  | [] => none
  | c :: rest =>
    if (unit? c).isNone then unencodableFrom? (position + 1) rest
    else some ⟨c, position, (rest.takeWhile fun c => (unit? c).isSome).length⟩

/-- Why the text has no encoding, if it has none. -/
def unencodable? (text : String) : Option Unencodable :=
  unencodableFrom? 0 text.toList

theorem unencodableFrom?_eq_none_iff {position : Nat} {chars : List Char} :
    unencodableFrom? position chars = none ↔ ∀ c ∈ chars, (unit? c).isNone = true := by
  induction chars generalizing position with
  | nil => simp [unencodableFrom?]
  | cons c rest ih =>
      rw [unencodableFrom?, List.forall_mem_cons]
      split
      · next hchar => rw [ih, and_iff_right hchar]
      · next hunit => simp [hunit]

theorem unencodable?_eq_none_iff {text : String} :
    unencodable? text = none ↔ isEncodable text = true := by
  rw [unencodable?, unencodableFrom?_eq_none_iff, isEncodable, List.all_eq_true]

/-- A value, unless there is a fault in a text that it is made of. -/
def guarded {α : Type} (fault? : Option Unencodable) (value : α) : Except Unencodable α :=
  match fault? with
  | some fault => .error fault
  | none => .ok value

end VisualNovel.Text
