/-!
# Double-precision numbers as exact values

A double is kept as what it denotes: a sign, a significand and a power of two.
Rounding is done once, in exact integer arithmetic, so every statement about a
double is a statement about natural numbers and integers.

The finite values are those with a significand below `2 ^ 53` and an exponent of
at least `-1074`; a value with a choice of exponents has the smallest one.
-/

namespace VisualNovel

/-- A double: not a number, an infinity, or `± significand * 2 ^ exponent`. -/
inductive Binary64 where
  | nan
  | infinite (negative : Bool)
  | finite (negative : Bool) (significand : Nat) (exponent : Int)
  deriving DecidableEq, Repr, Inhabited

namespace Binary64

/-- The smallest exponent of a finite double. -/
def leastExponent : Int := -1074

/-- The largest exponent of a finite double. -/
def greatestExponent : Int := 971

/-- Significands stay below this bound. -/
def significandBound : Nat := Nat.pow 2 53

/-- Zero, of either sign. -/
def zero (negative : Bool) : Binary64 := .finite negative 0 leastExponent

/-- The natural number next to `numerator / denominator`; a value halfway between
two goes to the even one. -/
def roundHalfEven (numerator denominator : Nat) : Nat :=
  let below := numerator / denominator
  let twice := 2 * (numerator % denominator)
  if twice < denominator then below
  else if denominator < twice then below + 1
  else if below % 2 = 0 then below else below + 1

/-- The fraction `(numerator / denominator) / 2 ^ exponent`. -/
def scaled (numerator denominator : Nat) : Int → Nat × Nat
  | .ofNat shift => (numerator, denominator * Nat.pow 2 shift)
  | .negSucc shift => (numerator * Nat.pow 2 (shift + 1), denominator)

/-- The exponent at which `numerator / denominator` has a significand of 53 binary
digits, or the least exponent if that is larger. -/
def exponentFor (numerator denominator : Nat) : Int :=
  let guess : Int := (numerator.log2 : Int) - (denominator.log2 : Int) - 53
  let fraction := scaled numerator denominator guess
  let exact := if fraction.1 / fraction.2 < significandBound then guess else guess + 1
  max leastExponent exact

/-- The double nearest to `± numerator / denominator`; a value halfway between two
goes to the one with the even significand, a value beyond the largest finite
double to infinity. -/
def ofRatio (negative : Bool) (numerator denominator : Nat) : Binary64 :=
  let exponent := exponentFor numerator denominator
  let fraction := scaled numerator denominator exponent
  let significand := roundHalfEven fraction.1 fraction.2
  if significand = 0 then zero negative
  else if significand < significandBound then
    if exponent ≤ greatestExponent then .finite negative significand exponent
    else .infinite negative
  else if exponent < greatestExponent then
    .finite negative (significandBound / 2) (exponent + 1)
  else .infinite negative

/-- The double nearest to an integer. -/
def ofInt (value : Int) : Binary64 :=
  ofRatio (value < 0) value.natAbs 1

/-- The double nearest to `± digits * 10 ^ power`.  Powers far outside the range of
finite doubles are answered without being computed. -/
def ofDecimal (negative : Bool) (digits : Nat) (power : Int) : Binary64 :=
  let magnitude : Int := (Nat.toDigits 10 digits).length + power
  if digits = 0 then zero negative
  else if 400 < magnitude then .infinite negative
  else if magnitude < -400 then zero negative
  else match power with
    | .ofNat shift => ofRatio negative (digits * Nat.pow 10 shift) 1
    | .negSucc shift => ofRatio negative digits (Nat.pow 10 (shift + 1))

/-- Is the value a number, and not an infinity? -/
def isFinite : Binary64 → Bool
  | .finite _ _ _ => true
  | _ => false

/-- Is the value a zero of either sign? -/
def isZero : Binary64 → Bool
  | .finite _ significand _ => significand == 0
  | _ => false

/-- The magnitude of a finite double as a fraction. -/
def magnitude (significand : Nat) : Int → Nat × Nat
  | .ofNat shift => (significand * Nat.pow 2 shift, 1)
  | .negSucc shift => (significand, Nat.pow 2 (shift + 1))

/-- The integer that a double equals, if it equals one. -/
def toInt? : Binary64 → Option Int
  | .finite negative significand exponent =>
    let fraction := magnitude significand exponent
    if fraction.1 % fraction.2 = 0 then
      let size : Int := (fraction.1 / fraction.2 : Nat)
      some (if negative then -size else size)
    else none
  | _ => none

end Binary64

end VisualNovel
