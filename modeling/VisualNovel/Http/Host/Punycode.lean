/-!
# Punycode

A label with characters outside ASCII is written in ASCII alone: first its ASCII
characters, then the places and codes of all others.  These are taken in the order of
their codes, and each is given by its distance from the one before it: the number of
places that are passed, when all places for one code are passed before those for the
next.

Distances are written in digits of base 36, the lowest one first.  A digit below a
threshold is the last one of its number; the thresholds depend on a bias, which is adapted
to the size of the distances.
-/

namespace VisualNovel.Http.Host.Punycode

/-! ## Digits -/

/-- The digit for a value below 36. -/
def digit (value : Nat) : Char :=
  if value < 26 then Char.ofNat (0x61 + value) else Char.ofNat (0x30 + (value - 26))

/-- The value of a digit; its case does not matter. -/
def digitValue? (c : Char) : Option Nat :=
  if 'a' ≤ c ∧ c ≤ 'z' then some (c.toNat - 0x61)
  else if 'A' ≤ c ∧ c ≤ 'Z' then some (c.toNat - 0x41)
  else if '0' ≤ c ∧ c ≤ '9' then some (c.toNat - 0x30 + 26)
  else none

/-- The threshold for a digit; `place` is 36 for the first digit of a number and grows by
36 with each. -/
def threshold (place bias : Nat) : Nat := max 1 (min 26 (place - bias))

theorem threshold_pos (place bias : Nat) : 1 ≤ threshold place bias := Nat.le_max_left _ _

/-- The digits of a number from a place on. -/
def digits (bias place number : Nat) : List Char :=
  let bound := threshold place bias
  if number < bound then [digit number]
  else
    digit (bound + (number - bound) % (36 - bound)) ::
      digits bias (place + 36) ((number - bound) / (36 - bound))
termination_by number
decreasing_by
  have positive := threshold_pos place bias
  calc (number - threshold place bias) / (36 - threshold place bias)
      ≤ number - threshold place bias := Nat.div_le_self _ _
    _ < number := by omega

/-- The bias for the next distance, after `count` characters have been placed. -/
def adapted (distance count : Nat) (first : Bool) : Nat :=
  let damped := if first then distance / 700 else distance / 2
  scaled 0 (damped + damped / count)
where
  /-- The bias for a distance that is scaled down as often as need be. -/
  scaled (bias size : Nat) : Nat :=
    if 455 < size then scaled (bias + 36) (size / 35)
    else bias + 36 * size / (size + 38)
  termination_by size

/-! ## Writing -/

/-- The state of a writer: the digits so far, the places passed since the last character,
the bias, and the number of characters that have been placed. -/
structure Writer where
  written : List Char
  distance : Nat
  bias : Nat
  count : Nat

/-- Go past one character of the label in the round for a code; `plain` is the number of
ASCII characters. -/
def Writer.pass (plain code : Nat) (writer : Writer) (c : Char) : Writer :=
  if c.toNat < code then { writer with distance := writer.distance + 1 }
  else if c.toNat = code then
    { written := writer.written ++ digits writer.bias 36 writer.distance
      distance := 0
      bias := adapted writer.distance (writer.count + 1) (writer.count = plain)
      count := writer.count + 1 }
  else writer

/-- Make the rounds for some codes, in their order; `next` is the code after the one of
the last round. -/
def Writer.rounds (label : List Char) (plain : Nat) : Nat → List Nat → Writer → Writer
  | _, [], writer => writer
  | next, code :: rest, writer =>
    let moved := { writer with
      distance := writer.distance + (code - next) * (writer.count + 1) }
    let done := label.foldl (Writer.pass plain code) moved
    rounds label plain (code + 1) rest { done with distance := done.distance + 1 }

/-- Is the character in ASCII? -/
def isPlain (c : Char) : Bool := c.toNat < 0x80

/-- The list without what equals its successor. -/
def withoutRepeats : List Nat → List Nat
  | code :: next :: rest =>
    if code = next then withoutRepeats (next :: rest) else code :: withoutRepeats (next :: rest)
  | rest => rest

/-- The codes of the characters outside ASCII, in order and without repetitions. -/
def codes (label : List Char) : List Nat :=
  let outside := (label.filter fun c => !isPlain c).map Char.toNat
  withoutRepeats (outside.mergeSort fun code other => code ≤ other)

/-- A label in ASCII. -/
def encode (label : List Char) : List Char :=
  let plain := label.filter isPlain
  let writer := Writer.rounds label plain.length 0x80 (codes label) ⟨[], 0, 72, plain.length⟩
  plain ++ (if plain.isEmpty then [] else ['-']) ++ writer.written

/-! ## Reading -/

/-- A number at the start of some digits, and the rest. -/
def number? (bias : Nat) : Nat → Nat → List Char → Option (Nat × List Char)
  | _, _, [] => none
  | place, weight, c :: rest => do
    let value ← digitValue? c
    let bound := threshold place bias
    if value < bound then return (value * weight, rest)
    let (higher, rest) ← number? bias (place + 36) (weight * (36 - bound)) rest
    return (value * weight + higher, rest)

/-- Place at most the given number of characters into a label; `state` is the number of
places passed in all rounds up to `code`. -/
def placed? : Nat → List Char → Nat → Nat → Nat → Bool → List Char → Option (List Char)
  | _, label, _, _, _, _, [] => some label
  | 0, _, _, _, _, _, _ => none
  | fuel + 1, label, code, place, bias, first, text => do
    let (distance, rest) ← number? bias 36 1 text
    let size := label.length + 1
    let code := code + (place + distance) / size
    let place := (place + distance) % size
    if !code.isValidChar then none
    let label := label.take place ++ Char.ofNat code :: label.drop place
    placed? fuel label code (place + 1) (adapted distance size first) false rest

/-- The label that a text in ASCII stands for. -/
def decode? (text : List Char) : Option (List Char) :=
  let backwards := text.reverse
  let plain := ((backwards.dropWhile (· ≠ '-')).drop 1).reverse
  let rest := (backwards.takeWhile (· ≠ '-')).reverse
  placed? rest.length plain 0x80 0 72 true rest

end VisualNovel.Http.Host.Punycode
