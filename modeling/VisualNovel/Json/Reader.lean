import VisualNovel.Json.Room
import VisualNovel.Text.Unpaired

/-!
# Reading JSON text

The reader takes one value off the front of a text.  Beyond strict JSON it knows
the words `NaN`, `Infinity` and `-Infinity`.  Of several fields of one name the
last one counts, in the place of the first.  Whole numbers of more than
`Numeral.digitLimit` digits are refused on their own terms: they are not
malformed, but are not read either.  The same goes for values that nest too deeply.

The reader recurses on an amount of fuel which `readText` makes large enough for the
text: every second step takes at least one character.
-/

namespace VisualNovel.Json

/-- What a value can lie in. -/
inductive Container where
  | array
  | object
  deriving DecidableEq, Repr

/-- The word for it. -/
def Container.word : Container → String
  | array => "array"
  | object => "object"

/-- Why a text is not read. -/
inductive ReadFault where
  /-- The text is not JSON. -/
  | malformed
  /-- A whole number has too many digits, this many. -/
  | tooManyDigits (count : Nat)
  /-- Arrays and objects lie too deeply within one another.  This is the first one for which
  there is no room. -/
  | tooDeep (container : Container)
  deriving DecidableEq, Repr

/-- The message about a text that is not read, if there is one of its own. -/
def ReadFault.message? : ReadFault → Option String
  | malformed => none
  | tooManyDigits count =>
    some ("Exceeds the limit (" ++ toString Numeral.digitLimit ++
      " digits) for integer string conversion: value has " ++ toString count ++
      " digits; use sys.set_int_max_str_digits() to increase the limit")
  | tooDeep container =>
    some ("maximum recursion depth exceeded while decoding a JSON " ++ container.word ++
      " from a unicode string")

/-- The text after the blanks at its start. -/
def skipBlanks : List Char → List Char :=
  List.dropWhile fun c => c = ' ' || c = '\t' || c = '\n' || c = '\r'

/-! ## Strings -/

/-- The value of a hexadecimal digit of either case. -/
def hexValue? (c : Char) : Option Nat :=
  if '0' ≤ c ∧ c ≤ '9' then some (c.toNat - 48)
  else if 'A' ≤ c ∧ c ≤ 'F' then some (c.toNat - 55)
  else if 'a' ≤ c ∧ c ≤ 'f' then some (c.toNat - 87)
  else none

/-- The unit of 16 bits with the given digits. -/
def unit? (a b c d : Char) : Option Nat := do
  let a ← hexValue? a
  let b ← hexValue? b
  let c ← hexValue? c
  let d ← hexValue? d
  return ((a * 16 + b) * 16 + c) * 16 + d

/-- The character that a letter after a backslash stands for. -/
def shortEscape? : Char → Option Char
  | '"' => some '"'
  | '\\' => some '\\'
  | '/' => some '/'
  | 'b' => some '\x08'
  | 'f' => some '\x0c'
  | 'n' => some '\n'
  | 'r' => some '\r'
  | 't' => some '\t'
  | _ => none

/-- The codes of the characters and units up to the closing quote, and the rest of the
text. -/
def stringCodes : List Char → Except ReadFault (List Nat × List Char)
  | [] => .error .malformed
  | '"' :: rest => .ok ([], rest)
  | '\\' :: 'u' :: a :: b :: c :: d :: rest =>
    match unit? a b c d with
    | none => .error .malformed
    | some unit => (stringCodes rest).map fun (codes, rest) => (unit :: codes, rest)
  | '\\' :: letter :: rest =>
    match shortEscape? letter with
    | none => .error .malformed
    | some c => (stringCodes rest).map fun (codes, rest) => (c.toNat :: codes, rest)
  | c :: rest =>
    if c.toNat < 0x20 ∨ c = '\\' then .error .malformed
    else (stringCodes rest).map fun (codes, rest) => (c.toNat :: codes, rest)

/-- Is the code the first of a pair of units? -/
def isHighUnit (code : Nat) : Bool := 0xd800 ≤ code && code ≤ 0xdbff

/-- Is the code the second of a pair of units? -/
def isLowUnit (code : Nat) : Bool := 0xdc00 ≤ code && code ≤ 0xdfff

/-- The characters of a sequence of codes, pairs of units being joined. -/
def joinUnits : List Nat → List Char
  | [] => []
  | [code] => [Text.ofCode code]
  | high :: low :: rest =>
    if isHighUnit high ∧ isLowUnit low then
      Char.ofNat (0x10000 + (high - 0xd800) * 0x400 + (low - 0xdc00)) :: joinUnits rest
    else Text.ofCode high :: joinUnits (low :: rest)

/-- A string after its opening quote. -/
def readString (text : List Char) : Except ReadFault (String × List Char) :=
  (stringCodes text).map fun (codes, rest) => (String.ofList (joinUnits codes), rest)

/-! ## Numbers -/

/-- The digits of a whole number without needless zeros in front, and the rest. -/
def wholeDigits? : List Char → Option (List Char × List Char)
  | '0' :: rest => some (['0'], rest)
  | text =>
    match Numeral.spanDigits text with
    | ([], _) => none
    | found => some found

/-- A number after its sign. -/
def readUnsigned (negative : Bool) (text : List Char) :
    Except ReadFault (Number × List Char) :=
  match wholeDigits? text with
  | none => .error .malformed
  | some (whole, afterWhole) =>
    let (fraction, afterFraction) := match Numeral.fraction? afterWhole with
      | some (digits, rest) => (some digits, rest)
      | none => (none, afterWhole)
    let (exponent, rest) := match Numeral.exponent? afterFraction with
      | some (exponent, rest) => (some exponent, rest)
      | none => (none, afterFraction)
    if fraction.isNone ∧ exponent.isNone then
      if Numeral.digitLimit < whole.length then .error (.tooManyDigits whole.length)
      else
        let size : Int := Numeral.value whole
        .ok (.whole (if negative then -size else size), rest)
    else
      .ok (.real (Numeral.real negative whole (fraction.getD []) (exponent.getD 0)), rest)

/-! ## Values -/

mutual

/-- A value at the start of the text, and the rest; `depth` is how many arrays and objects
may still lie within one another. -/
def readValue : Nat → Nat → List Char → Except ReadFault (Json × List Char)
  | 0, _, _ => .error .malformed
  | fuel + 1, depth, text =>
    match text with
    | '"' :: rest => (readString rest).map fun (text, rest) => (.str text, rest)
    | '[' :: rest =>
      if depth = 0 then .error (.tooDeep .array)
      else match skipBlanks rest with
        | ']' :: rest => .ok (.arr [], rest)
        | rest => (readItems fuel (depth - 1) rest).map fun (items, rest) => (.arr items, rest)
    | '\x7b' :: rest =>
      if depth = 0 then .error (.tooDeep .object)
      else match skipBlanks rest with
        | '\x7d' :: rest => .ok (.obj [], rest)
        | rest => (readFields fuel (depth - 1) rest).map fun (fields, rest) =>
          (.obj (OrderedMap.ofPairs fields), rest)
    | 'n' :: 'u' :: 'l' :: 'l' :: rest => .ok (.null, rest)
    | 't' :: 'r' :: 'u' :: 'e' :: rest => .ok (.bool true, rest)
    | 'f' :: 'a' :: 'l' :: 's' :: 'e' :: rest => .ok (.bool false, rest)
    | 'N' :: 'a' :: 'N' :: rest => .ok (.num (.real .nan), rest)
    | 'I' :: 'n' :: 'f' :: 'i' :: 'n' :: 'i' :: 't' :: 'y' :: rest =>
      .ok (.num (.real (.infinite false)), rest)
    | '-' :: 'I' :: 'n' :: 'f' :: 'i' :: 'n' :: 'i' :: 't' :: 'y' :: rest =>
      .ok (.num (.real (.infinite true)), rest)
    | '-' :: rest => (readUnsigned true rest).map fun (value, rest) => (.num value, rest)
    | text => (readUnsigned false text).map fun (value, rest) => (.num value, rest)

/-- The items of an array up to its closing bracket, at least one. -/
def readItems : Nat → Nat → List Char → Except ReadFault (List Json × List Char)
  | 0, _, _ => .error .malformed
  | fuel + 1, depth, text => do
    let (item, rest) ← readValue fuel depth text
    match skipBlanks rest with
    | ']' :: rest => .ok ([item], rest)
    | ',' :: rest =>
      let (items, rest) ← readItems fuel depth (skipBlanks rest)
      .ok (item :: items, rest)
    | _ => .error .malformed

/-- The fields of an object up to its closing brace, at least one. -/
def readFields : Nat → Nat → List Char → Except ReadFault (List (String × Json) × List Char)
  | 0, _, _ => .error .malformed
  | fuel + 1, depth, text =>
    match text with
    | '"' :: rest => do
      let (key, rest) ← readString rest
      match skipBlanks rest with
      | ':' :: rest =>
        let (value, rest) ← readValue fuel depth (skipBlanks rest)
        match skipBlanks rest with
        | '\x7d' :: rest => .ok ([(key, value)], rest)
        | ',' :: rest =>
          let (fields, rest) ← readFields fuel depth (skipBlanks rest)
          .ok ((key, value) :: fields, rest)
        | _ => .error .malformed
      | _ => .error .malformed
    | _ => .error .malformed

end

/-- The value that a text, blanks around it aside, consists of, if not more than `depth`
arrays and objects lie within one another. -/
def readText (depth : Nat) (text : List Char) : Except ReadFault Json := do
  let (value, rest) ← readValue (2 * text.length + 2) depth (skipBlanks text)
  match skipBlanks rest with
  | [] => .ok value
  | _ => .error .malformed

end VisualNovel.Json
