/-!
# The time of a save

A save is stamped with a moment in universal time, written year first, with six digits
of a second's fraction unless it is zero.
-/

namespace VisualNovel

/-- A moment in universal time. -/
structure Moment where
  year : Nat
  month : Nat
  day : Nat
  hour : Nat
  minute : Nat
  second : Nat
  microsecond : Nat
  deriving DecidableEq, Repr

namespace Moment

/-- A number with at least `width` digits. -/
def digits (width value : Nat) : String :=
  let text := Nat.toDigits 10 value
  String.ofList (List.replicate (width - text.length) '0' ++ text)

/-- The text of a moment. -/
def text (moment : Moment) : String :=
  digits 4 moment.year ++ "-" ++ digits 2 moment.month ++ "-" ++ digits 2 moment.day ++ "T" ++
    digits 2 moment.hour ++ ":" ++ digits 2 moment.minute ++ ":" ++ digits 2 moment.second ++
    (if moment.microsecond = 0 then "" else "." ++ digits 6 moment.microsecond) ++ "+00:00"

end Moment

end VisualNovel
