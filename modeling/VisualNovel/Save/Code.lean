/-!
# Save codes

A save is found again by a code of letters and digits.  Every character of a code takes
one draw, a number that picks a letter of the alphabet; numbers beyond the alphabet
start over at its beginning.  When no draws are left, zero is drawn.
-/

namespace VisualNovel.SaveCode

/-- The characters of a code. -/
def alphabet : List Char :=
  "ABCDEFGHIJKLMNOPQRSTUVWXYZabcdefghijklmnopqrstuvwxyz0123456789".toList

/-- How long a code is. -/
def length : Nat := 8

/-- The letter that a draw picks. -/
def letter (draw : Nat) : Char :=
  alphabet.getD (draw % alphabet.length) 'A'

/-- The next draw, and the draws after it. -/
def draw : List Nat → Nat × List Nat
  | [] => (0, [])
  | first :: rest => (first, rest)

/-- The letters of a code, and the draws that are left. -/
def letters : Nat → List Nat → List Char × List Nat
  | 0, draws => ([], draws)
  | size + 1, draws =>
    let (first, rest) := draw draws
    let (others, left) := letters size rest
    (letter first :: others, left)

/-- A code of the given length, and the draws that are left. -/
def generate (size : Nat) (draws : List Nat) : String × List Nat :=
  let (code, left) := letters size draws
  (String.ofList code, left)

end VisualNovel.SaveCode
