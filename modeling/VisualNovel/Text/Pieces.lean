/-!
# Pieces of texts

Paths, types and names are taken apart at every place where one character stands.
-/

namespace VisualNovel.Text

/-- What stands before, between and after the places of a character. -/
def pieces (separator : Char) (text : String) : List String :=
  (text.toList.splitOn separator).map String.ofList

/-- A text without the character is a single piece. -/
theorem pieces_of_not_mem {separator : Char} {text : String} (absent : separator ∉ text.toList) :
    pieces separator text = [text] := by
  rw [pieces, List.splitOn_eq_singleton absent, List.map_singleton, String.ofList_toList]

end VisualNovel.Text
