import VisualNovel.Text.Unpaired
import Mathlib.Data.Set.Function
import Mathlib.Tactic.SplitIfs

/-!
# Texts and their codes

What a text is made of are codes: those of characters, and units, with a partner or without.  In a
text of characters a unit is there as the character that stands for it.  The codes of these
characters are the one thing that a text cannot have, as they would be taken for units; they are
codes to which Unicode has given no characters.

Nothing else is lost: texts correspond to the lists of codes without these (`bijOn_ofCodes`), and a
text has an encoding exactly if none of its codes is a unit (`isEncodable_ofCodes`).
-/

namespace VisualNovel.Text

variable {c : Char} {unit code : Nat} {codes : List Nat}

/-! ## Units and characters -/

theorem toNat_valid (c : Char) : c.toNat < 0xd800 ∨ 0xdfff < c.toNat ∧ c.toNat < 0x110000 := by
  simpa [UInt32.isValidChar, Nat.isValidChar] using c.valid

theorem of_unit?_eq_some (hunit : unit? c = some unit) :
    isUnit unit = true ∧ unitOffset + unit = c.toNat := by
  unfold unit? at hunit
  split_ifs at hunit with hbounds
  have hcode : c.toNat - unitOffset = unit := Option.some.inj hunit
  constructor
  · simp only [isUnit, Bool.and_eq_true, decide_eq_true_eq]
    omega
  · omega

theorem ofCode_of_unit? (hunit : unit? c = some unit) : ofCode unit = c := by
  obtain ⟨hisUnit, htoNat⟩ := of_unit?_eq_some hunit
  rw [ofCode, if_pos hisUnit, htoNat, Char.ofNat_toNat]

theorem ofCode_toNat (c : Char) : ofCode c.toNat = c := by
  have hnot : isUnit c.toNat = false := by
    have hvalid := toNat_valid c
    simp only [isUnit, Bool.and_eq_false_iff, decide_eq_false_iff_not]
    omega
  rw [ofCode, hnot]
  exact Char.ofNat_toNat c

theorem unit?_of_ascii (hascii : c.toNat < 0x80) : unit? c = none := by
  have hnot : ¬ (unitOffset + 0xd800 ≤ c.toNat ∧ c.toNat ≤ unitOffset + 0xdfff) := by omega
  exact if_neg hnot

theorem isEncodable_of_ascii {text : String} (hascii : ∀ c ∈ text.toList, c.toNat < 0x80) :
    isEncodable text = true := by
  rw [isEncodable, List.all_eq_true]
  exact fun c hmem => Option.isNone_iff_eq_none.mpr (unit?_of_ascii (hascii c hmem))

/-! ## One code -/

/-- Can a text have the code?  It is a code of Unicode, and none of those whose characters stand for
units. -/
def IsCode (code : Nat) : Prop :=
  code < 0x110000 ∧ ¬ (unitOffset + 0xd800 ≤ code ∧ code ≤ unitOffset + 0xdfff)

/-- The code for which a character is there: a unit, or its own. -/
def toCode (c : Char) : Nat := (unit? c).getD c.toNat

theorem isCode_toCode (c : Char) : IsCode (toCode c) := by
  have hvalid := toNat_valid c
  rw [IsCode, toCode]
  cases hunit : unit? c with
  | none =>
      have hfree : ¬ (unitOffset + 0xd800 ≤ c.toNat ∧ c.toNat ≤ unitOffset + 0xdfff) := by
        intro hreserved
        have hsome : unit? c = some (c.toNat - unitOffset) := if_pos hreserved
        exact Option.some_ne_none _ (hsome.symm.trans hunit)
      rw [Option.getD_none]
      exact ⟨by omega, hfree⟩
  | some unit =>
      have hcode := (of_unit?_eq_some hunit).1
      simp only [isUnit, Bool.and_eq_true, decide_eq_true_eq] at hcode
      simp only [Option.getD_some, unitOffset]
      omega

theorem ofCode_toCode (c : Char) : ofCode (toCode c) = c := by
  rw [toCode]
  cases hunit : unit? c with
  | none => exact ofCode_toNat c
  | some unit => exact ofCode_of_unit? hunit

theorem toNat_ofCode (hcode : IsCode code) (hnot : isUnit code = false) :
    (ofCode code).toNat = code := by
  have hvalid : code.isValidChar := by
    have hlt := hcode.1
    simp only [isUnit, Bool.and_eq_false_iff, decide_eq_false_iff_not] at hnot
    unfold Nat.isValidChar
    omega
  rw [ofCode, hnot, if_neg Bool.false_ne_true, Char.ofNat, dif_pos hvalid]
  rfl

/-- A character stands for a unit exactly if its code is one. -/
theorem unit?_ofCode_eq_none_iff (hcode : IsCode code) :
    unit? (ofCode code) = none ↔ isUnit code = false := by
  cases hunit : isUnit code with
  | true => rw [unit?_ofCode hunit]; exact iff_of_false nofun nofun
  | false =>
      refine iff_of_true (if_neg ?_) rfl
      rw [toNat_ofCode hcode hunit]
      exact hcode.2

theorem toCode_ofCode (hcode : IsCode code) : toCode (ofCode code) = code := by
  rw [toCode]
  cases hunit : isUnit code with
  | true => rw [unit?_ofCode hunit, Option.getD_some]
  | false =>
      rw [(unit?_ofCode_eq_none_iff hcode).mpr hunit, Option.getD_none, toNat_ofCode hcode hunit]

/-! ## Whole texts -/

/-- The codes of a text. -/
def toCodes (text : String) : List Nat := text.toList.map toCode

/-- The text with some codes. -/
def ofCodes (codes : List Nat) : String := String.ofList (codes.map ofCode)

theorem ofCodes_toCodes (text : String) : ofCodes (toCodes text) = text := by
  have hsame : ofCode ∘ toCode = id := funext ofCode_toCode
  rw [ofCodes, toCodes, List.map_map, hsame, List.map_id, String.ofList_toList]

theorem toCodes_ofCodes (hcodes : ∀ code ∈ codes, IsCode code) :
    toCodes (ofCodes codes) = codes := by
  rw [toCodes, ofCodes, String.toList_ofList, List.map_map]
  exact (List.map_congr_left fun code hmem => toCode_ofCode (hcodes code hmem)).trans
    (List.map_id _)

/-- Texts correspond to the lists of codes that a text can have. -/
theorem bijOn_ofCodes : Set.BijOn ofCodes {codes | ∀ code ∈ codes, IsCode code} Set.univ := by
  refine Set.InvOn.bijOn ⟨fun codes hcodes => toCodes_ofCodes hcodes,
    fun text _ => ofCodes_toCodes text⟩ (Set.mapsTo_univ _ _) ?_
  intro text _
  exact List.forall_mem_map.mpr fun c _ => isCode_toCode c

/-- A text has an encoding exactly if none of its codes is a unit. -/
theorem isEncodable_ofCodes (hcodes : ∀ code ∈ codes, IsCode code) :
    isEncodable (ofCodes codes) = true ↔ ∀ code ∈ codes, isUnit code = false := by
  rw [isEncodable, ofCodes, String.toList_ofList, List.all_map, List.all_eq_true]
  refine forall₂_congr fun code hmem => ?_
  rw [← unit?_ofCode_eq_none_iff (hcodes code hmem)]
  exact Option.isNone_iff_eq_none

end VisualNovel.Text
