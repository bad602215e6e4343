import VisualNovel.Json.Reader
import VisualNovel.Text.Utf8

/-!
# JSON in bytes

A message or a file brings its JSON as bytes.  A file is UTF-8.  A message says
its encoding by a byte order mark or, since JSON starts with two ASCII characters
or is a single digit, by where its first bytes are zero.  In messages unpaired units are
let through.
-/

namespace VisualNovel.Json

/-- Why bytes are not read. -/
inductive BytesFault where
  /-- The bytes are no text in their encoding. -/
  | undecodable
  /-- The text is not read. -/
  | text (fault : ReadFault)
  deriving DecidableEq, Repr

/-- The encodings of a message. -/
inductive Encoding where
  | utf8
  | utf16 (bigEndian : Bool)
  | utf32 (bigEndian : Bool)
  deriving DecidableEq, Repr

/-- The byte order marks, longer ones before those that they begin with. -/
def marks : List (List UInt8 × Encoding) :=
  [([0, 0, 0xfe, 0xff], .utf32 true), ([0xff, 0xfe, 0, 0], .utf32 false),
   ([0xfe, 0xff], .utf16 true), ([0xff, 0xfe], .utf16 false), ([0xef, 0xbb, 0xbf], .utf8)]

/-- The encoding of a message without a byte order mark. -/
def unmarkedEncoding : List UInt8 → Encoding
  | a :: b :: c :: d :: _ =>
    if a = 0 then (if b ≠ 0 then .utf16 true else .utf32 true)
    else if b = 0 then (if c ≠ 0 ∨ d ≠ 0 then .utf16 false else .utf32 false)
    else .utf8
  | [a, b] => if a = 0 then .utf16 true else if b = 0 then .utf16 false else .utf8
  | _ => .utf8

/-- The encoding of a message, and its bytes after the byte order mark. -/
def detectEncoding (bytes : List UInt8) : Encoding × List UInt8 :=
  match marks.find? fun mark => mark.1.isPrefixOf bytes with
  | some (mark, encoding) => (encoding, bytes.drop mark.length)
  | none => (unmarkedEncoding bytes, bytes)

/-- The numbers that two bytes each stand for. -/
def pairs? (bigEndian : Bool) : List UInt8 → Option (List Nat)
  | [] => some []
  | [_] => none
  | a :: b :: rest => do
    let others ← pairs? bigEndian rest
    return (if bigEndian then a.toNat * 256 + b.toNat else b.toNat * 256 + a.toNat) :: others

/-- The numbers that four bytes each stand for. -/
def quadruples? (bigEndian : Bool) (bytes : List UInt8) : Option (List Nat) := do
  let halves ← pairs? bigEndian bytes
  joined halves
where
  /-- Two halves each make a number. -/
  joined : List Nat → Option (List Nat)
    | [] => some []
    | [_] => none
    | a :: b :: rest => do
      let others ← joined rest
      return (if bigEndian then a * 65536 + b else b * 65536 + a) :: others

/-- The text that bytes stand for in an encoding. -/
def decodeAs? (encoding : Encoding) (bytes : List UInt8) : Option (List Char) :=
  match encoding with
  | .utf8 =>
    ((String.fromUTF8? ⟨bytes.toArray⟩).map String.toList).or (Text.Utf8.decodeUnits? bytes)
  | .utf16 bigEndian => (pairs? bigEndian bytes).map joinUnits
  | .utf32 bigEndian => do
    let codes ← quadruples? bigEndian bytes
    if codes.all (· < 0x110000) then some (codes.map Text.ofCode) else none

/-- The value that a message brings to a place. -/
def parseMessage [Room] (place : Place) (bytes : ByteArray) : Except BytesFault Json :=
  let (encoding, content) := detectEncoding bytes.toList
  match decodeAs? encoding content with
  | none => .error .undecodable
  | some text => (readText (Room.depth place) text).mapError .text

/-- The value that a file consists of, where it is read at a place. -/
def parseFile [Room] (place : Place) (bytes : ByteArray) : Except BytesFault Json :=
  match String.fromUTF8? bytes with
  | none => .error .undecodable
  | some text => (readText (Room.depth place) text.toList).mapError .text

end VisualNovel.Json
