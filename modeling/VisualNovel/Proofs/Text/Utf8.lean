import Mathlib.Tactic.SplitIfs
import VisualNovel.Proofs.Json.Strings
import VisualNovel.Text.Utf8

/-!
# The bytes of a text are decoded as the text

The first byte of a character says how many bytes follow, and within which bounds the next one
lies.  The bytes in which a character is encoded fit: between the bounds lie exactly the codes that
have no shorter encoding, that are not too great, and that are not those of units.  So every
character is decoded as itself (`scan_utf8EncodeChar`), whether or not units are let through, and a
text is found in its bytes without a fault (`decodeLossy_encoded`).
-/

namespace VisualNovel.Text

theorem toNat_lt_of_isAlphanum {c : Char} (halphanum : c.isAlphanum = true) : c.toNat < 0x80 := by
  unfold Char.isAlphanum Char.isAlpha Char.isUpper Char.isLower Char.isDigit at halphanum
  simp only [Bool.or_eq_true, Bool.and_eq_true, decide_eq_true_eq, ge_iff_le,
    UInt32.le_iff_toNat_le] at halphanum
  show c.val.toNat < 0x80
  have hbounds : UInt32.toNat 'Z'.val = 90 ∧ UInt32.toNat 'z'.val = 122 ∧
      UInt32.toNat '9'.val = 57 := by decide
  omega

theorem of_ascii (holds : Char → Prop) (hcodes : ∀ code < 0x80, holds (Char.ofNat code)) {c : Char}
    (hlt : c.toNat < 0x80) : holds c := by
  have hcode := hcodes c.toNat hlt
  rwa [Char.ofNat_toNat] at hcode

namespace Utf8

variable {units : Bool} {rest : List UInt8}

/-! ## Single bytes -/

theorem toNat_ofNat {byte : Nat} (hlt : byte < 0x100) : (UInt8.ofNat byte).toNat = byte := by
  rw [UInt8.toNat_ofNat', Nat.mod_eq_of_lt hlt]

theorem scan_start {byte : Nat} (hlt : byte < 0x100) (units : Bool) (rest : List UInt8) :
    scan units none (UInt8.ofNat byte :: rest) =
      (start units byte).2 ++ scan units (start units byte).1 rest := by
  rw [scan, toNat_ofNat hlt]

/-- The last byte of a character completes it. -/
theorem scan_last {code least greatest byte : Nat} (hleast : least ≤ byte)
    (hgreatest : byte ≤ greatest) (hlt : byte < 0x100) :
    scan units (some ⟨code, 1, least, greatest⟩) (UInt8.ofNat byte :: rest) =
      some (ofCode (code * 0x40 + (byte - 0x80))) :: scan units none rest := by
  have hbounds : least ≤ byte ∧ byte ≤ greatest := ⟨hleast, hgreatest⟩
  simp [scan, toNat_ofNat hlt, hbounds]

/-- Another byte is passed, and after it the bounds are those of all further ones. -/
theorem scan_next {code missing least greatest byte : Nat} (hleast : least ≤ byte)
    (hgreatest : byte ≤ greatest) (hlt : byte < 0x100) :
    scan units (some ⟨code, missing + 2, least, greatest⟩) (UInt8.ofNat byte :: rest) =
      scan units (some ⟨code * 0x40 + (byte - 0x80), missing + 1, 0x80, 0xbf⟩) rest := by
  have hbounds : least ≤ byte ∧ byte ≤ greatest := ⟨hleast, hgreatest⟩
  simp [scan, toNat_ofNat hlt, hbounds]

/-! ## First bytes -/

theorem start_of_one {byte : Nat} (hlt : byte < 0x80) :
    start units byte = (none, [some (Char.ofNat byte)]) := by
  rw [start, if_pos hlt]

theorem start_of_two {high : Nat} (hleast : 2 ≤ high) (hlt : high < 0x20) :
    start units (high + 0xc0) = (some ⟨high, 1, 0x80, 0xbf⟩, []) := by
  rw [start, if_neg (by omega), if_pos (by omega), Nat.add_sub_cancel]

theorem start_of_three {high : Nat} (hlt : high < 0x10) :
    start units (high + 0xe0) =
      (some ⟨high, 2, if high + 0xe0 = 0xe0 then 0xa0 else 0x80,
        if high + 0xe0 = 0xed ∧ !units then 0x9f else 0xbf⟩, []) := by
  rw [start, if_neg (by omega), if_neg (by omega), if_pos (by omega), Nat.add_sub_cancel]

theorem start_of_four {high : Nat} (hlt : high < 5) :
    start units (high + 0xf0) =
      (some ⟨high, 3, if high + 0xf0 = 0xf0 then 0x90 else 0x80,
        if high + 0xf0 = 0xf4 then 0x8f else 0xbf⟩, []) := by
  rw [start, if_neg (by omega), if_neg (by omega), if_neg (by omega), if_pos (by omega),
    Nat.add_sub_cancel]

/-! ## Characters -/

/-- The bytes of a character, by the length of its code. -/
theorem utf8EncodeChar_cases (c : Char) :
    (c.toNat < 0x80 ∧ String.utf8EncodeChar c = [UInt8.ofNat c.toNat]) ∨
    (0x80 ≤ c.toNat ∧ c.toNat < 0x800 ∧ String.utf8EncodeChar c =
      [UInt8.ofNat (c.toNat / 0x40 + 0xc0), UInt8.ofNat (c.toNat % 0x40 + 0x80)]) ∨
    (0x800 ≤ c.toNat ∧ c.toNat < 0x10000 ∧ String.utf8EncodeChar c =
      [UInt8.ofNat (c.toNat / 0x1000 + 0xe0), UInt8.ofNat (c.toNat / 0x40 % 0x40 + 0x80),
        UInt8.ofNat (c.toNat % 0x40 + 0x80)]) ∨
    (0x10000 ≤ c.toNat ∧ String.utf8EncodeChar c =
      [UInt8.ofNat (c.toNat / 0x40000 + 0xf0), UInt8.ofNat (c.toNat / 0x1000 % 0x40 + 0x80),
        UInt8.ofNat (c.toNat / 0x40 % 0x40 + 0x80), UInt8.ofNat (c.toNat % 0x40 + 0x80)]) := by
  have hvalid := toNat_valid c
  have hcode : c.val.toNat = c.toNat := rfl
  unfold String.utf8EncodeChar
  simp only [hcode]
  split_ifs with hone htwo hthree
  · exact Or.inl ⟨by omega, rfl⟩
  · have hhigh : c.toNat / 64 % 32 = c.toNat / 64 := Nat.mod_eq_of_lt (by omega)
    rw [hhigh]
    exact Or.inr (Or.inl ⟨by omega, by omega, rfl⟩)
  · have hhigh : c.toNat / 4096 % 16 = c.toNat / 4096 := Nat.mod_eq_of_lt (by omega)
    rw [hhigh]
    exact Or.inr (Or.inr (Or.inl ⟨by omega, by omega, rfl⟩))
  · have hhigh : c.toNat / 262144 % 8 = c.toNat / 262144 := Nat.mod_eq_of_lt (by omega)
    rw [hhigh]
    exact Or.inr (Or.inr (Or.inr ⟨by omega, rfl⟩))

theorem utf8EncodeChar_of_ascii {c : Char} (hascii : c.toNat < 0x80) :
    String.utf8EncodeChar c = [UInt8.ofNat c.toNat] :=
  if_pos (show c.toNat ≤ 127 by omega)

/-- A character that is not of ASCII has no byte of ASCII. -/
theorem le_of_mem_utf8EncodeChar {c : Char} (hle : 0x80 ≤ c.toNat) {byte : UInt8}
    (hmem : byte ∈ String.utf8EncodeChar c) : 0x80 ≤ byte.toNat := by
  have hvalid := toNat_valid c
  rcases utf8EncodeChar_cases c with ⟨hlt, -⟩ | ⟨-, hlt, hbytes⟩ | ⟨-, hlt, hbytes⟩ |
    ⟨-, hbytes⟩
  · exact absurd hlt (Nat.not_lt.mpr hle)
  all_goals
    simp only [hbytes, List.mem_cons, List.not_mem_nil, or_false] at hmem
  · rcases hmem with rfl | rfl <;> rw [toNat_ofNat (by omega)] <;> omega
  · rcases hmem with rfl | rfl | rfl <;> rw [toNat_ofNat (by omega)] <;> omega
  · rcases hmem with rfl | rfl | rfl | rfl <;> rw [toNat_ofNat (by omega)] <;> omega

/-- Every character is decoded as itself. -/
theorem scan_utf8EncodeChar (units : Bool) (c : Char) (rest : List UInt8) :
    scan units none (String.utf8EncodeChar c ++ rest) = some c :: scan units none rest := by
  have hvalid := toNat_valid c
  rcases utf8EncodeChar_cases c with ⟨hlt, hbytes⟩ | ⟨hle, hlt, hbytes⟩ | ⟨hle, hlt, hbytes⟩ |
    ⟨hle, hbytes⟩ <;> rw [hbytes]
  · rw [List.singleton_append, scan_start (by omega), start_of_one hlt, Char.ofNat_toNat]
    rfl
  · have hcode : c.toNat / 0x40 * 0x40 + (c.toNat % 0x40 + 0x80 - 0x80) = c.toNat := by omega
    simp only [List.cons_append, List.nil_append]
    rw [scan_start (by omega), start_of_two (by omega) (by omega), List.nil_append,
      scan_last (by omega) (by omega) (by omega), hcode, ofCode_toNat]
  · -- the second byte keeps out codes with a shorter encoding, and units
    have hleast : (if c.toNat / 0x1000 + 0xe0 = 0xe0 then 0xa0 else 0x80) ≤
        c.toNat / 0x40 % 0x40 + 0x80 := by
      split_ifs <;> omega
    have hgreatest : c.toNat / 0x40 % 0x40 + 0x80 ≤
        (if c.toNat / 0x1000 + 0xe0 = 0xed ∧ !units then 0x9f else 0xbf) := by
      split_ifs <;> omega
    have hcode : (c.toNat / 0x1000 * 0x40 + (c.toNat / 0x40 % 0x40 + 0x80 - 0x80)) * 0x40 +
        (c.toNat % 0x40 + 0x80 - 0x80) = c.toNat := by
      omega
    simp only [List.cons_append, List.nil_append]
    rw [scan_start (by omega), start_of_three (by omega), List.nil_append,
      scan_next hleast hgreatest (by omega), scan_last (by omega) (by omega) (by omega), hcode,
      ofCode_toNat]
  · -- the second byte keeps out codes with a shorter encoding, and codes that are too great
    have hleast : (if c.toNat / 0x40000 + 0xf0 = 0xf0 then 0x90 else 0x80) ≤
        c.toNat / 0x1000 % 0x40 + 0x80 := by
      split_ifs <;> omega
    have hgreatest : c.toNat / 0x1000 % 0x40 + 0x80 ≤
        (if c.toNat / 0x40000 + 0xf0 = 0xf4 then 0x8f else 0xbf) := by
      split_ifs <;> omega
    have hcode : ((c.toNat / 0x40000 * 0x40 + (c.toNat / 0x1000 % 0x40 + 0x80 - 0x80)) * 0x40 +
        (c.toNat / 0x40 % 0x40 + 0x80 - 0x80)) * 0x40 + (c.toNat % 0x40 + 0x80 - 0x80) =
          c.toNat := by
      omega
    simp only [List.cons_append, List.nil_append]
    rw [scan_start (by omega), start_of_four (by omega), List.nil_append,
      scan_next hleast hgreatest (by omega), scan_next (by omega) (by omega) (by omega),
      scan_last (by omega) (by omega) (by omega), hcode, ofCode_toNat]

/-! ## Texts -/

theorem scan_encoded (units : Bool) (text : List Char) :
    scan units none (text.flatMap String.utf8EncodeChar) = text.map some := by
  induction text with
  | nil => rfl
  | cons c rest ih => rw [List.flatMap_cons, scan_utf8EncodeChar, ih, List.map_cons]

/-- A text is found in its bytes, without a fault. -/
theorem decodeLossy_encoded (text : List Char) :
    decodeLossy (text.flatMap String.utf8EncodeChar) = text := by
  rw [decodeLossy, scan_encoded, List.map_map]
  exact List.map_id text

end Utf8

end VisualNovel.Text
