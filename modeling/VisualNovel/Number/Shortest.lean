import VisualNovel.Number.Binary64

/-!
# The shortest decimal that reads back as a given double

A finite double stands for an interval of reals, those that round to it: half a
step to either side, the ends included exactly when the significand is even.
For one, two, … seventeen digits the two decimals next to the value on the grid
of that many digits are tried; the first grid with a decimal inside the interval
decides the number of digits, and the nearer of its two decimals the digits.
-/

namespace VisualNovel.Binary64

/-- A decimal `digits * 10 ^ power`. -/
structure Decimal where
  digits : Nat
  power : Int
  deriving DecidableEq, Repr

/-- How many decimal digits a natural number is written with. -/
def digitCount (value : Nat) : Nat := (Nat.toDigits 10 value).length

/-- The exponent of ten of the first digit of `numerator / denominator`. -/
def leadingPower (numerator denominator : Nat) : Int :=
  if denominator ≤ numerator then (digitCount (numerator / denominator) : Int) - 1
  else (0 : Int) - digitCount ((denominator + numerator - 1) / numerator - 1)

/-- The fraction `(numerator / denominator) / 10 ^ power`. -/
def onGrid (numerator denominator : Nat) : Int → Nat × Nat
  | .ofNat shift => (numerator, denominator * Nat.pow 10 shift)
  | .negSucc shift => (numerator * Nat.pow 10 (shift + 1), denominator)

/-- The ends of the interval of reals that round to `significand * 2 ^ exponent`, as
numerators over the common denominator `4 * denominator`. -/
structure Interval where
  lower : Nat
  value : Nat
  upper : Nat
  denominator : Nat
  closed : Bool

/-- The interval of a finite double that is not zero.  Below a power of two the step
is half as wide as above it. -/
def interval (significand : Nat) (exponent : Int) : Interval :=
  let fraction := magnitude significand exponent
  let step := magnitude 1 exponent
  let narrow := significand = significandBound / 2 ∧ leastExponent < exponent
  { lower := 4 * fraction.1 - (if narrow then step.1 else 2 * step.1)
    value := 4 * fraction.1
    upper := 4 * fraction.1 + 2 * step.1
    denominator := 4 * fraction.2
    closed := significand % 2 = 0 }

/-- Does `candidate * 10 ^ power` round to the double of the interval? -/
def Interval.holds (bounds : Interval) (candidate : Nat) (power : Int) : Bool :=
  let low := onGrid bounds.lower bounds.denominator power
  let high := onGrid bounds.upper bounds.denominator power
  if bounds.closed then low.1 ≤ candidate * low.2 ∧ candidate * high.2 ≤ high.1
  else low.1 < candidate * low.2 ∧ candidate * high.2 < high.1

/-- The nearer of the two decimals around the value on the grid `10 ^ power`, among
those that round to the double. -/
def Interval.onPower? (bounds : Interval) (power : Int) : Option Decimal :=
  let scaledValue := onGrid bounds.value bounds.denominator power
  let below := scaledValue.1 / scaledValue.2
  let above := below + 1
  match bounds.holds below power, bounds.holds above power with
  | false, false => none
  | true, false => some ⟨below, power⟩
  | false, true => some ⟨above, power⟩
  | true, true => some ⟨roundHalfEven scaledValue.1 scaledValue.2, power⟩

/-- The first hit on the grids of `17 - tries + 1`, … , `17` digits. -/
def Interval.search (bounds : Interval) (leading : Int) : Nat → Decimal
  | 0 => ⟨roundHalfEven bounds.value bounds.denominator, 0⟩
  | tries + 1 =>
    match bounds.onPower? (leading - (16 - tries : Nat)) with
    | some decimal => decimal
    | none => search bounds leading tries

/-- The decimal without trailing zeros. -/
def Decimal.trimmed (decimal : Decimal) : Decimal :=
  go (digitCount decimal.digits) decimal
where
  /-- Drop at most the given number of zeros. -/
  go : Nat → Decimal → Decimal
    | 0, decimal => decimal
    | fuel + 1, decimal =>
      if decimal.digits ≠ 0 ∧ decimal.digits % 10 = 0 then
        go fuel ⟨decimal.digits / 10, decimal.power + 1⟩
      else decimal

/-- The shortest decimal that reads back as `significand * 2 ^ exponent`, of two the
nearer one; zero is `0`. -/
def shortest (significand : Nat) (exponent : Int) : Decimal :=
  if significand = 0 then ⟨0, 0⟩
  else
    let bounds := interval significand exponent
    (bounds.search (leadingPower bounds.value bounds.denominator) 17).trimmed

/-! ## Layout -/

/-- How a double is laid out as text. -/
structure Layout where
  /-- The value is written without an exponent when its first digit stands for at
  least `10 ^ leastPositional`. -/
  leastPositional : Int
  /-- The value is written without an exponent when its first digit stands for at
  most `10 ^ greatestPositional`. -/
  greatestPositional : Int
  /-- Exponents are written with at least this many digits. -/
  exponentWidth : Nat
  /-- The word for the value that is not a number. -/
  nan : String
  /-- The word for infinity, without its sign. -/
  infinity : String

/-- The digits of `value` after zeros that make them at least `width` many. -/
def paddedDigits (width value : Nat) : List Char :=
  let digits := Nat.toDigits 10 value
  List.replicate (width - digits.length) '0' ++ digits

/-- The digits of a decimal, with an exponent of ten: a point after the first digit if
there are more. -/
def scientific (layout : Layout) (digits : List Char) (leading : Int) : List Char :=
  let mantissa := match digits with
    | [] => []
    | [digit] => [digit]
    | digit :: rest => digit :: '.' :: rest
  mantissa ++ 'e' :: (if leading < 0 then '-' else '+') ::
    paddedDigits layout.exponentWidth leading.natAbs

/-- The digits of a decimal without an exponent: a whole number keeps `.0`. -/
def positional (digits : List Char) (leading : Int) : List Char :=
  match leading with
  | .negSucc zeros => '0' :: '.' :: (List.replicate zeros '0' ++ digits)
  | .ofNat wholes =>
    let whole := digits.take (wholes + 1)
    let fraction := digits.drop (wholes + 1)
    whole ++ List.replicate (wholes + 1 - whole.length) '0' ++
      '.' :: (if fraction.isEmpty then ['0'] else fraction)

/-- The text of a double. -/
def toChars (layout : Layout) : Binary64 → List Char
  | .nan => layout.nan.toList
  | .infinite negative => (if negative then ['-'] else []) ++ layout.infinity.toList
  | .finite negative significand exponent =>
    let decimal := shortest significand exponent
    let digits := Nat.toDigits 10 decimal.digits
    let leading : Int := decimal.power + digits.length - 1
    let unsigned :=
      if layout.leastPositional ≤ leading ∧ leading ≤ layout.greatestPositional then
        positional digits leading
      else scientific layout digits leading
    (if negative then ['-'] else []) ++ unsigned

end VisualNovel.Binary64
