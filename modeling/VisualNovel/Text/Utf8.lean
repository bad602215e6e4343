import VisualNovel.Text.Unpaired

/-!
# Decoding UTF-8

Bytes are decoded one by one: the first byte of a character says how many more belong to
it, and within which bounds the next one lies.  A byte that does not fit is a fault, and
so is a character without its last bytes; decoding goes on with the byte that did not fit.

Unpaired units are faults as well, unless they are let through.
-/

namespace VisualNovel.Text.Utf8

/-- A character that is not complete: its code so far, how many bytes are missing, and
the bounds of the next one. -/
structure Pending where
  code : Nat
  missing : Nat
  least : Nat := 0x80
  greatest : Nat := 0xbf

/-- What a byte begins: a complete character, a pending one, or nothing. -/
def start (units : Bool) (byte : Nat) : Option Pending × List (Option Char) :=
  if byte < 0x80 then (none, [some (Char.ofNat byte)])
  else if 0xc2 ≤ byte ∧ byte ≤ 0xdf then (some { code := byte - 0xc0, missing := 1 }, [])
  else if 0xe0 ≤ byte ∧ byte ≤ 0xef then
    (some { code := byte - 0xe0, missing := 2
            least := if byte = 0xe0 then 0xa0 else 0x80
            greatest := if byte = 0xed ∧ !units then 0x9f else 0xbf }, [])
  else if 0xf0 ≤ byte ∧ byte ≤ 0xf4 then
    (some { code := byte - 0xf0, missing := 3
            least := if byte = 0xf0 then 0x90 else 0x80
            greatest := if byte = 0xf4 then 0x8f else 0xbf }, [])
  else (none, [none])

/-- The characters and the faults that bytes stand for after a pending character. -/
def scan (units : Bool) : Option Pending → List UInt8 → List (Option Char)
  | none, [] => []
  | some _, [] => [none]
  | none, byte :: rest =>
    let (pending, found) := start units byte.toNat
    found ++ scan units pending rest
  | some pending, byte :: rest =>
    let value := byte.toNat
    if pending.least ≤ value ∧ value ≤ pending.greatest then
      let code := pending.code * 0x40 + (value - 0x80)
      if pending.missing ≤ 1 then some (ofCode code) :: scan units none rest
      else scan units (some { code, missing := pending.missing - 1 }) rest
    else
      let (next, found) := start units value
      none :: (found ++ scan units next rest)

/-- The text that bytes stand for if there are no faults; unpaired units are let
through. -/
def decodeUnits? (bytes : List UInt8) : Option (List Char) := (scan true none bytes).mapM id

/-- The text that bytes stand for, with the replacement character for each fault. -/
def decodeLossy (bytes : List UInt8) : List Char :=
  (scan false none bytes).map fun found => found.getD '\ufffd'

end VisualNovel.Text.Utf8
