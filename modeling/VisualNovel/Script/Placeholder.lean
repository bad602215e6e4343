/-!
# The player's name in the script

Scripts and names of characters may leave a place for the name of the player.  All
places are filled in one pass from the left, and the name that was put in is not
searched again.
-/

namespace VisualNovel.Placeholder

/-- What stands for the name of the player. -/
def mark : List Char := "%PLAYER_NAME%".toList

/-- Fill the places in the text after its first `skip` characters, which are dropped. -/
def fillFrom (name : List Char) : Nat → List Char → List Char
  | _, [] => []
  | skip + 1, _ :: rest => fillFrom name skip rest
  | 0, c :: rest =>
    if mark.isPrefixOf (c :: rest) then name ++ fillFrom name (mark.length - 1) rest
    else c :: fillFrom name 0 rest

/-- The text with the name of the player in every place that is left for it. -/
def fill (name text : String) : String :=
  String.ofList (fillFrom name.toList 0 text.toList)

end VisualNovel.Placeholder
