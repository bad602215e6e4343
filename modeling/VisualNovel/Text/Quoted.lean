import VisualNovel.Text.Printable
import VisualNovel.Text.Unpaired

/-!
# Quoted text

Text is shown between quotes in messages: single ones, or double ones if the text
has a single quote and no double one.  The quote in use, the backslash, line
breaks and tabs are escaped by a backslash, and characters that are not
printable by their code in hexadecimal.
-/

namespace VisualNovel.Text

/-- The lower-case hexadecimal digits of `value`, at least `width` many. -/
def hexDigits (width value : Nat) : List Char :=
  let digits := Nat.toDigits 16 value
  List.replicate (width - digits.length) '0' ++ digits

/-- The code of a character, or the unit for which it stands, in its shortest notation:
`\xhh`, `\uhhhh` or `\Uhhhhhhhh`. -/
def codeEscape (c : Char) : List Char :=
  let code := (unit? c).getD c.toNat
  if code < 0x100 then '\\' :: 'x' :: hexDigits 2 code
  else if code < 0x10000 then '\\' :: 'u' :: hexDigits 4 code
  else '\\' :: 'U' :: hexDigits 8 code

/-- One character between two quotes. -/
def quotedChar (quote c : Char) : List Char :=
  if c = quote ∨ c = '\\' then ['\\', c]
  else if c = '\n' then ['\\', 'n']
  else if c = '\r' then ['\\', 'r']
  else if c = '\t' then ['\\', 't']
  else if isPrintable c then [c]
  else codeEscape c

/-- The quote that needs the fewer escapes. -/
def quoteFor (text : List Char) : Char :=
  if '\'' ∈ text ∧ '"' ∉ text then '"' else '\''

/-- Text between quotes. -/
def quoted (text : String) : String :=
  let quote := quoteFor text.toList
  String.ofList (quote :: (text.toList.flatMap (quotedChar quote) ++ [quote]))

end VisualNovel.Text
