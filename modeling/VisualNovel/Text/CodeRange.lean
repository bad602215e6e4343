/-!
# Ranges of characters

The properties of characters are given by tables of ranges, each with its first and its
last code.  Small and capital letters often take turns, so a range may also go on in
steps.
-/

namespace VisualNovel.Text

/-- Does the character belong to one of the ranges? -/
def inRanges (ranges : Array (Nat × Nat)) (c : Char) : Bool :=
  ranges.any fun range => range.1 ≤ c.toNat && c.toNat ≤ range.2

/-- Is the character reached from the first one of a range, without going beyond the
last one, by steps of the given width? -/
def isReached (first last width : Nat) (c : Char) : Bool :=
  first ≤ c.toNat && c.toNat ≤ last && (c.toNat - first) % width = 0

/-- What a table says about a character; the table lists ranges that do not overlap, and
something about each of them. -/
def inTable? {α : Type} (table : Array (Nat × Nat × α)) (c : Char) : Option α :=
  (table.find? fun entry => entry.1 ≤ c.toNat && c.toNat ≤ entry.2.1).map (·.2.2)

end VisualNovel.Text
