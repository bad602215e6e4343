import VisualNovel.Json.Display
import VisualNovel.Record.Checked
import VisualNovel.Text.Blank

/-!
# Texts and numbers in records

A text has to be a text.  Numbers are understood generously: a truth value counts
as zero or one, a double without a fraction as the whole number it equals, and a
text as the numeral that it contains.  White space around a numeral is ignored, and
single underscores within it may group its digits.
-/

namespace VisualNovel

/-! ## Whole numbers in texts -/

namespace Numeral

/-- What a strict reading of a whole number finds. -/
inductive Strict where
  | whole (value : Int)
  | malformed
  | tooLong
  deriving DecidableEq, Repr

/-- The whole number that a text is: a minus sign if there is one, and then zero or
digits of which the first is not zero.  Too many of them are refused before what
follows is looked at; the sign counts as one. -/
def strict (text : List Char) : Strict :=
  let (negative, unsigned) := match text with
    | '-' :: rest => (true, rest)
    | rest => (false, rest)
  match unsigned with
  | ['0'] => .whole 0
  | '0' :: _ => .malformed
  | _ =>
    let (digits, rest) := spanDigits unsigned
    if digits.isEmpty then .malformed
    else if digitLimit < digits.length + (if negative then 1 else 0) then .tooLong
    else if rest.isEmpty then
      let size : Int := value digits
      .whole (if negative then -size else size)
    else .malformed

/-- The part of a text that starts at its first digit other than zero or its first
minus sign, at a zero before a point, or at its last character, if only zeros and
underscores stand before it. -/
def withoutZeros? : List Char → Option (List Char)
  | [] => none
  | first :: rest =>
    if first = '0' then skip first rest
    else if first.isDigit || first = '-' then some (first :: rest)
    else none
where
  /-- Leave out zeros and underscores after a character that was left out. -/
  skip (last : Char) : List Char → Option (List Char)
    | [] => some [last]
    | next :: rest =>
      if next = '0' ∨ next = '_' then skip next rest
      else if next.isDigit || next = '-' then some (next :: rest)
      else if next = '.' then some (last :: next :: rest)
      else none

/-- The text without an ending of a point and at least one zero. -/
def withoutFraction (text : List Char) : List Char :=
  let (whole, rest) := text.span (· != '.')
  match rest with
  | '.' :: zeros => if !zeros.isEmpty && zeros.all (· == '0') then whole else text
  | _ => text

/-- Do two underscores stand side by side? -/
def hasUnderscores : List Char → Bool
  | first :: second :: rest => (first == '_' && second == '_') || hasUnderscores (second :: rest)
  | _ => false

/-- The text without its underscores, if there are any and each stands alone between
two characters. -/
def ungrouped? (text : List Char) : Option (List Char) :=
  if text.contains '_' && text.head? != some '_' && text.getLast? != some '_' &&
      !hasUnderscores text then
    some (text.filter (· != '_'))
  else none

/-- A text brought into the strict form, as far as it can be: without white space at
its ends, a plus sign, zeros at its start, an empty fraction and underscores. -/
def cleaned? (text : List Char) : Option (List Char) :=
  let clean (unsigned : List Char) := (withoutZeros? unsigned).map fun digits =>
    let whole := withoutFraction digits
    (ungrouped? whole).getD whole
  match Text.trimmed Text.isWhiteSpace text with
  | '-' :: unsigned => (clean unsigned).map ('-' :: ·)
  | '+' :: '-' :: _ => none
  | '+' :: unsigned => clean unsigned
  | unsigned => clean unsigned

/-- The whole number that a text contains, read as it stands or else cleaned first. -/
def lenient (text : List Char) : Strict :=
  match strict text with
  | .malformed => ((cleaned? text).map strict).getD .malformed
  | found => found

/-! ## Doubles in texts -/

/-- The sign at the start of a text, and the rest. -/
def spanSign : List Char → Bool × List Char
  | '-' :: rest => (true, rest)
  | '+' :: rest => (false, rest)
  | text => (false, text)

/-- The double that a word stands for, letters of either case being the same. -/
def word? (negative : Bool) (text : List Char) : Option Binary64 :=
  match String.ofList (text.map Char.toLower) with
  | "inf" => some (.infinite negative)
  | "infinity" => some (.infinite negative)
  | "nan" => some .nan
  | _ => none

/-- The double that a numeral without its sign stands for: digits before or after the
point, or both, and an exponent if there is one. -/
def unsignedReal? (negative : Bool) (text : List Char) : Option Binary64 :=
  let (whole, afterWhole) := spanDigits text
  let (fraction, rest) := match afterWhole with
    | '.' :: afterPoint => spanDigits afterPoint
    | _ => ([], afterWhole)
  if whole.isEmpty && fraction.isEmpty then none
  else match rest with
    | [] => some (real negative whole fraction 0)
    | _ =>
      match exponent? rest with
      | some (exponent, []) => some (real negative whole fraction exponent)
      | _ => none

/-- The double that a text is: a sign if there is one, and a word or a numeral. -/
def strictReal? (text : List Char) : Option Binary64 :=
  let (negative, unsigned) := spanSign text
  (word? negative unsigned).or (unsignedReal? negative unsigned)

/-- The double that a text contains: read without the white space around it, or else
without its underscores. -/
def real? (text : List Char) : Option Binary64 :=
  (strictReal? (Text.trimmed Text.isWhiteSpace text)).or
    ((ungrouped? text).bind strictReal?)

end Numeral

/-! ## Readers -/

namespace Reader

/-- A text, whatever units it holds. -/
def text : Reader String
  | .str value => .accepted value
  | _ => .fault .notText

/-- A text that is read further: here unpaired units are refused. -/
def unicode (text : String) : Checked String :=
  if Text.isEncodable text then .accepted text else .fault .notUnicode

/-- One of some texts. -/
def oneOf {α : Type} (find? : String → Option α) : Reader α
  | .str value =>
    (unicode value).andThen fun text =>
      match find? text with
      | some found => .accepted found
      | none => .fault .notAllowed
  | _ => .fault .notAllowed

/-- The whole number that a text contains. -/
def wholeOfText (value : String) : Checked Int :=
  match Numeral.lenient value.toList with
  | .whole found => .accepted found
  | .malformed => .fault .notNumeral
  | .tooLong => .fault .tooLarge

/-- The number beyond those of 64 bits. -/
def wordBound : Int := Int.ofNat (Nat.pow 2 63)

/-- The whole number that a double equals.  Doubles count strictly between the bounds of
64 bits. -/
def wholeOfReal (value : Binary64) : Checked Int :=
  if value.isFinite then
    match value.toInt? with
    | none => .fault .fractional
    | some whole =>
      if -wordBound < whole ∧ whole < wordBound then .accepted whole else .fault .tooLarge
  else .fault .notFinite

/-- A whole number. -/
def whole : Reader Int
  | .num (.whole value) => .accepted value
  | .num (.real value) => wholeOfReal value
  | .bool value => .accepted (if value then 1 else 0)
  | .str value => (unicode value).andThen wholeOfText
  | _ => .fault .notWhole

/-- A whole number that is not negative. -/
def natural (value : Json) : Checked Nat :=
  (whole value).andThen fun found =>
    match found with
    | .ofNat size => .accepted size
    | .negSucc _ => .fault .negative

/-- A double.  A whole number beyond the largest double is none. -/
def real : Reader Binary64
  | .num (.whole value) =>
    let nearest := Binary64.ofInt value
    if nearest.isFinite then .accepted nearest else .fault .notReal
  | .num (.real value) => .accepted value
  | .bool value => .accepted (Binary64.ofInt (if value then 1 else 0))
  | .str value =>
    (unicode value).andThen fun text =>
      match Numeral.real? text.toList with
      | some found => .accepted found
      | none => .fault .notDecimal
  | _ => .fault .notReal

end Reader

end VisualNovel
