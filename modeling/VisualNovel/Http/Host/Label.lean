import VisualNovel.Http.Host.Letter
import VisualNovel.Http.Host.Punycode
import VisualNovel.Text.Composition
import VisualNovel.Text.Direction
import VisualNovel.Text.Joining

/-!
# Labels of host names

The name of a host consists of labels with dots between them.  A label with characters
outside ASCII has to be composed, to consist of characters that are allowed where they
stand, and to go in one direction; it is sent in Punycode after the letters `xn--`.  A
label that begins in this way already has to stand for a valid one.
-/

namespace VisualNovel.Http.Host.Label

/-! ## Characters -/

/-- Is a joiner allowed between two texts, the first of them backwards?  It is allowed
after a virama; the one that keeps letters apart also between letters that would be
joined. -/
def allowsJoiner (before : List Char) (c : Char) (after : List Char) : Bool :=
  before.head?.any (Text.markClass · = Text.viramaClass) ||
    (c = '\u200c' && Text.joinsAfter before && Text.joinsBefore after)

/-- Is the character an Arabic digit, of the first set or of the extended one? -/
def isArabicDigit (extended : Bool) (c : Char) : Bool :=
  if extended then '\u06f0' ≤ c && c ≤ '\u06f9' else '\u0660' ≤ c && c ≤ '\u0669'

/-- Is a character allowed between two texts, the first of them backwards? -/
def allows (before : List Char) (c : Char) (after : List Char) : Bool :=
  if isLetter c then true
  else if c = '\u200c' ∨ c = '\u200d' then allowsJoiner before c after
  else if c = '\u00b7' then before.head? = some 'l' && after.head? = some 'l'
  else if c = '\u0375' then after.head?.any isGreek
  else if c = '\u05f3' ∨ c = '\u05f4' then before.head?.any isHebrew
  else if c = '\u30fb' then before.any isJapanese || after.any isJapanese
  else if isArabicDigit false c then
    !(before.any (isArabicDigit true) || after.any (isArabicDigit true))
  else if isArabicDigit true c then
    !(before.any (isArabicDigit false) || after.any (isArabicDigit false))
  else false

/-- Are all characters of a text allowed after another one, which is given backwards? -/
def allowsAll (before : List Char) : List Char → Bool
  | [] => true
  | c :: after => allows before c after && allowsAll (c :: before) after

/-! ## Directions -/

/-- May a character of a direction stand in a label from right to left? -/
def fitsRight : Text.Direction → Bool
  | .left => false
  | _ => true

/-- May a character of a direction stand in a label from left to right? -/
def fitsLeft : Text.Direction → Bool
  | .right | .arabicDigit => false
  | _ => true

/-- Does a label end, marks aside, with one of some directions? -/
def endsWith (directions : List Text.Direction) (label : List Text.Direction) : Bool :=
  (label.reverse.dropWhile (· = .mark)).head?.any directions.contains

/-- Do the directions of the characters of a label go together? -/
def isDirected (label : List Text.Direction) : Bool :=
  if !(label.contains .right || label.contains .arabicDigit) then true
  else match label.head? with
    | some .right =>
      label.all fitsRight && endsWith [.right, .europeanDigit, .arabicDigit] label &&
        !(label.contains .europeanDigit && label.contains .arabicDigit)
    | some .left => label.all fitsLeft && endsWith [.left, .europeanDigit] label
    | _ => false

/-! ## Labels -/

/-- Are the hyphens of a label where they may be: not at its ends, nor both in the third
and in the fourth place? -/
def isHyphenated (label : List Char) : Bool :=
  label.head? != some '-' && label.getLast? != some '-' && (label.drop 2).take 2 != ['-', '-']

/-- Is the label valid? -/
def isValid (label : List Char) : Bool :=
  !label.isEmpty && Text.isComposed label && isHyphenated label &&
    !label.head?.any isMark && allowsAll [] label && isDirected (label.map Text.direction)

/-- A label has at most this many characters in ASCII. -/
def lengthLimit : Nat := 63

/-- Is a label in ASCII valid?  After `xn--` it has to stand for a valid one. -/
def isValidPlain (label : List Char) : Bool :=
  match label with
  | 'x' :: 'n' :: '-' :: '-' :: rest =>
    !rest.isEmpty && rest.getLast? != some '-' && (Punycode.decode? rest).any isValid
  | _ => isValid label

/-- The label in ASCII, if it is valid. -/
def plain? (label : List Char) : Option (List Char) :=
  let checked : Option (List Char) :=
    if label.all Punycode.isPlain then
      if isValidPlain label then some label else none
    else if isValid label then some ('x' :: 'n' :: '-' :: '-' :: Punycode.encode label)
    else none
  checked.filter fun label => label.length ≤ lengthLimit

end VisualNovel.Http.Host.Label
