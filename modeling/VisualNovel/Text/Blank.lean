/-!
# Blank characters

White space, as the `White_Space` property of Unicode names it, surrounds a
number that was entered as text.  What a player types is trimmed more widely: the
four information separators of ASCII are blank there as well.
-/

namespace VisualNovel.Text

/-- Does the character have the property `White_Space`? -/
def isWhiteSpace (c : Char) : Bool :=
  let n := c.toNat
  (0x09 ≤ n && n ≤ 0x0d) || n == 0x20 || n == 0x85 || n == 0xa0 || n == 0x1680 ||
    (0x2000 ≤ n && n ≤ 0x200a) || n == 0x2028 || n == 0x2029 || n == 0x202f ||
    n == 0x205f || n == 0x3000

/-- White space, or one of the information separators of ASCII. -/
def isBlank (c : Char) : Bool :=
  isWhiteSpace c || (0x1c ≤ c.toNat && c.toNat ≤ 0x1f)

/-- The text without the characters of a class at its two ends. -/
def trimmed (class? : Char → Bool) (text : List Char) : List Char :=
  ((text.dropWhile class?).reverse.dropWhile class?).reverse

@[simp] theorem trimmed_nil (class? : Char → Bool) : trimmed class? [] = [] := rfl

end VisualNovel.Text
