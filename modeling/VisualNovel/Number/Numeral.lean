import VisualNovel.Number.Shortest

/-!
# Numbers and their numerals

A number is a whole number of any size or a double; `2` and `2.0` are different
numbers.  Numerals are read as a sequence of parts (sign, digits, fraction,
exponent), each the longest run of its characters.
-/

namespace VisualNovel

/-- A whole number of any size, or a double. -/
inductive Number where
  | whole (value : Int)
  | real (value : Binary64)
  deriving DecidableEq, Repr

namespace Numeral

/-- The digits and the sign of a whole number. -/
def ofInt (value : Int) : List Char :=
  (if value < 0 then ['-'] else []) ++ Nat.toDigits 10 value.natAbs

/-- The value of a run of decimal digits. -/
def value (digits : List Char) : Nat := Nat.ofDigitChars 10 digits 0

/-- Whole numbers in text have at most this many digits. -/
def digitLimit : Nat := 4300

/-- The longest run of decimal digits at the start, and the rest. -/
def spanDigits (text : List Char) : List Char × List Char :=
  text.span Char.isDigit

/-- A decimal fraction, `.` and at least one digit: its digits and the rest. -/
def fraction? : List Char → Option (List Char × List Char)
  | '.' :: rest =>
    match spanDigits rest with
    | ([], _) => none
    | found => some found
  | _ => none

/-- An exponent, `e` or `E`, an optional sign and at least one digit: its value and
the rest. -/
def exponent? : List Char → Option (Int × List Char)
  | marker :: rest =>
    if marker = 'e' ∨ marker = 'E' then
      let (negative, unsigned) := match rest with
        | '-' :: later => (true, later)
        | '+' :: later => (false, later)
        | later => (false, later)
      match spanDigits unsigned with
      | ([], _) => none
      | (digits, after) =>
        let size : Int := value digits
        some (if negative then 0 - size else size, after)
    else none
  | [] => none

/-- The double written by its digits before and after the point and its exponent. -/
def real (negative : Bool) (whole fraction : List Char) (exponent : Int) : Binary64 :=
  Binary64.ofDecimal negative (value (whole ++ fraction)) (exponent - fraction.length)

end Numeral

end VisualNovel
