import VisualNovel.Text.Unencodable
import VisualNovel.Text.Utf8

/-!
# Percent encoding

A text becomes one component of a URL: the unreserved characters stand for
themselves, and every other character is written as the bytes of its UTF-8
encoding, each as `%` and two upper-case hexadecimal digits.  A text without such an
encoding cannot become a component: `tryEncode` tells why, and `encode` is for all other
texts.  Decoding reads the bytes back and leaves alone what is not a complete `%` sequence.
-/

namespace VisualNovel.Percent

/-- Letters, digits and the marks that stand for themselves in a component. -/
def isUnreserved (c : Char) : Bool :=
  c.isAlphanum || "-_.~!*'()".toList.contains c

/-- The upper-case hexadecimal digit for a value below sixteen. -/
def hexDigit (value : Nat) : Char :=
  if value < 10 then Char.ofNat (48 + value) else Char.ofNat (55 + value)

/-- The value of a hexadecimal digit of either case. -/
def hexValue? (c : Char) : Option Nat :=
  if '0' ≤ c ∧ c ≤ '9' then some (c.toNat - 48)
  else if 'A' ≤ c ∧ c ≤ 'F' then some (c.toNat - 55)
  else if 'a' ≤ c ∧ c ≤ 'f' then some (c.toNat - 87)
  else none

/-- A byte as `%` and two digits. -/
def encodeByte (byte : UInt8) : List Char :=
  ['%', hexDigit (byte.toNat / 16), hexDigit (byte.toNat % 16)]

/-- A character, encoded unless it belongs to the class that is kept. -/
def encodeChar (kept : Char → Bool) (c : Char) : List Char :=
  if kept c then [c] else (String.utf8EncodeChar c).flatMap encodeByte

/-- The text with every character encoded that does not belong to a class. -/
def encodeWith (kept : Char → Bool) (text : String) : String :=
  String.ofList (text.toList.flatMap (encodeChar kept))

/-- The text as one component of a URL. -/
def encode (text : String) : String :=
  encodeWith isUnreserved text

/-- The text as one component of a URL, if it has an encoding. -/
def tryEncode (text : String) : Except Text.Unencodable String :=
  Text.guarded (Text.unencodable? text) (encode text)

/-- The bytes that an encoded text stands for. -/
def decodeBytes : List Char → List UInt8
  | '%' :: high :: low :: rest =>
    match hexValue? high, hexValue? low with
    | some h, some l => UInt8.ofNat (16 * h + l) :: decodeBytes rest
    | _, _ => '%'.toUInt8 :: decodeBytes (high :: low :: rest)
  | c :: rest => String.utf8EncodeChar c ++ decodeBytes rest
  | [] => []

/-- The text that an encoded text stands for, with the replacement character where its
bytes are not UTF-8. -/
def decode (text : String) : String :=
  String.ofList (Text.Utf8.decodeLossy (decodeBytes text.toList))

end VisualNovel.Percent
