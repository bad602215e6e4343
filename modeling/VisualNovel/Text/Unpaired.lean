/-!
# Unpaired units

JSON writes a character beyond the first 65536 as a pair of units, and nothing keeps a text
from holding one of these units without its partner.  Such a unit is no character.
In a text a character of the fourteenth plane stands for it, where Unicode has no
characters: U+DD800 for the unit D800, and so on up to U+DDFFF.  So a text is taken to have none
of these 2048 characters themselves.

Texts with unpaired units can be stored, as they are escaped there, but they have no
encoding in UTF-8.
-/

namespace VisualNovel.Text

/-- Is the number a unit of a pair? -/
def isUnit (code : Nat) : Bool := 0xd800 ≤ code && code ≤ 0xdfff

/-- The distance between a unit and the character that stands for it. -/
def unitOffset : Nat := 0xd0000

/-- The character with a code, or the one that stands for a unit. -/
def ofCode (code : Nat) : Char :=
  Char.ofNat (if isUnit code then unitOffset + code else code)

/-- The unit for which a character stands, if it stands for one. -/
def unit? (c : Char) : Option Nat :=
  if unitOffset + 0xd800 ≤ c.toNat ∧ c.toNat ≤ unitOffset + 0xdfff then
    some (c.toNat - unitOffset)
  else none

/-- Is there no unpaired unit in the text? -/
def isEncodable (text : String) : Bool :=
  text.toList.all fun c => (unit? c).isNone

/-- The text with three replacement characters, one for each byte, in the place of each
unpaired unit. -/
def withoutUnits (text : String) : String :=
  String.ofList (text.toList.flatMap fun c =>
    if (unit? c).isSome then ['\ufffd', '\ufffd', '\ufffd'] else [c])

theorem isEncodable_append (first second : String) :
    isEncodable (first ++ second) = (isEncodable first && isEncodable second) := by
  rw [isEncodable, String.toList_append, List.all_append]
  rfl

theorem unit?_ofCode {code : Nat} (h : isUnit code = true) : unit? (ofCode code) = some code := by
  have bounds : 0xd800 ≤ code ∧ code ≤ 0xdfff := by simpa [isUnit] using h
  have valid : (unitOffset + code).isValidChar := by
    unfold unitOffset Nat.isValidChar; omega
  have code_eq : (ofCode code).toNat = unitOffset + code := by
    rw [ofCode, if_pos h, Char.ofNat, dif_pos valid]
    rfl
  unfold unit?
  rw [code_eq, Nat.add_sub_cancel_left, if_pos (by omega)]

end VisualNovel.Text
