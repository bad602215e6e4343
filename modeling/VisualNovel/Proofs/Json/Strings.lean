import VisualNovel.Json.Printer
import VisualNovel.Json.Reader
import VisualNovel.Proofs.Text.Codes

/-!
# Strings are read back

A character inside a string is written as it is or by an escape, and read as one code, or as
the two units of a pair (`spelled`).  Joining the codes gives the characters back, with one
exception: of two unpaired units that follow one another, a first one and a second one, the
reader makes one character.  Texts in which this does not happen are *joined*
(`Text.isJoined`); all texts that can be sent are.
-/

namespace VisualNovel

namespace Text

/-- Does the character stand for the first unit of a pair? -/
def isHigh (c : Char) : Bool := (unit? c).any Json.isHighUnit

/-- Does the character stand for the second unit of a pair? -/
def isLow (c : Char) : Bool := (unit? c).any Json.isLowUnit

/-- Does no first unit stand right before a second one? -/
def hasNoPair : List Char → Bool
  | first :: second :: rest => !(isHigh first && isLow second) && hasNoPair (second :: rest)
  | _ => true

/-- Is there no pair of units in the text that makes up one character? -/
def isJoined (text : String) : Bool := hasNoPair text.toList

theorem isJoined_of_isEncodable {text : String} (hencodable : isEncodable text = true) :
    isJoined text = true := by
  unfold isJoined
  unfold isEncodable at hencodable
  generalize text.toList = chars at hencodable ⊢
  induction chars with
  | nil => rfl
  | cons first rest ih =>
      rw [List.all_cons, Bool.and_eq_true] at hencodable
      obtain ⟨hfirst, hrest⟩ := hencodable
      have hnone : unit? first = none := by simpa using hfirst
      cases rest with
      | nil => rfl
      | cons second rest => simp [hasNoPair, isHigh, hnone, ih hrest]

end Text

namespace Json

/-! ## Hexadecimal digits -/

theorem hexValue?_digitChar : ∀ digit < 16, hexValue? (Nat.digitChar digit) = some digit := by
  decide

/-- The last of some hexadecimal digits is the remainder by sixteen. -/
theorem hexDigits_succ {width : Nat} (hpos : 0 < width) (value : Nat) :
    Text.hexDigits (width + 1) value =
      Text.hexDigits width (value / 16) ++ [Nat.digitChar (value % 16)] := by
  unfold Text.hexDigits
  by_cases hlt : value < 16
  · have hquotient : value / 16 = 0 := by omega
    have hremainder : value % 16 = value := by omega
    obtain ⟨before, rfl⟩ : ∃ before, width = before + 1 := ⟨width - 1, by omega⟩
    simp [hquotient, hremainder, Nat.toDigits_of_lt_base hlt, ← List.replicate_succ']
  · rw [Nat.toDigits_of_base_le (by decide) (Nat.le_of_not_lt hlt)]
    simp

theorem hexDigits_one {value : Nat} (hlt : value < 16) :
    Text.hexDigits 1 value = [Nat.digitChar value] := by
  simp [Text.hexDigits, Nat.toDigits_of_lt_base hlt]

theorem hexDigits_spec {unit : Nat} (hunit : unit < 0x10000) :
    ∃ a b c d, Text.hexDigits 4 unit = [a, b, c, d] ∧ unit? a b c d = some unit := by
  refine ⟨Nat.digitChar (unit / 16 / 16 / 16), Nat.digitChar (unit / 16 / 16 % 16),
    Nat.digitChar (unit / 16 % 16), Nat.digitChar (unit % 16), ?_, ?_⟩
  · rw [hexDigits_succ (by decide), hexDigits_succ (by decide), hexDigits_succ (by decide),
      hexDigits_one (by omega)]
    rfl
  · have hsum : ((unit / 16 / 16 / 16 * 16 + unit / 16 / 16 % 16) * 16 + unit / 16 % 16) * 16 +
        unit % 16 = unit := by omega
    rw [unit?, hexValue?_digitChar _ (by omega), hexValue?_digitChar _ (by omega),
      hexValue?_digitChar _ (by omega), hexValue?_digitChar _ (by omega)]
    simp [hsum]

/-! ## Codes -/

/-- The codes by which a character in a string is read. -/
def spelled (style : Style) (c : Char) : List Nat :=
  match Text.unit? c with
  | some unit => if style.units || style.ascii then [unit] else [c.toNat]
  | none => if style.ascii then units c else [c.toNat]

theorem spelled_of_unit {style : Style} {c : Char} {unit : Nat}
    (hunit : Text.unit? c = some unit) :
    spelled style c = if style.units || style.ascii then [unit] else [c.toNat] := by
  unfold spelled
  generalize Text.unit? c = found at hunit ⊢
  rw [hunit]

theorem le_toNat_of_unit {c : Char} {unit : Nat} (hunit : Text.unit? c = some unit) :
    Text.unitOffset + 0xd800 ≤ c.toNat := by
  unfold Text.unit? at hunit
  split_ifs at hunit with hbounds
  exact hbounds.1

theorem spelled_of_none {style : Style} {c : Char} (hunit : Text.unit? c = none) :
    spelled style c = if style.ascii then units c else [c.toNat] := by
  unfold spelled
  generalize Text.unit? c = found at hunit ⊢
  rw [hunit]

theorem units_of_unit {c : Char} {unit : Nat} (hunit : Text.unit? c = some unit) :
    units c = [unit] := by
  unfold units
  generalize Text.unit? c = found at hunit ⊢
  rw [hunit]

theorem units_of_lt {c : Char} (hunit : Text.unit? c = none) (hsmall : c.toNat < 0x10000) :
    units c = [c.toNat] := by
  unfold units
  generalize Text.unit? c = found at hunit ⊢
  rw [hunit]
  exact if_pos hsmall

theorem units_of_not_lt {c : Char} (hunit : Text.unit? c = none) (hlarge : ¬ c.toNat < 0x10000) :
    units c = [0xd800 + (c.toNat - 0x10000) / 0x400, 0xdc00 + (c.toNat - 0x10000) % 0x400] := by
  unfold units
  generalize Text.unit? c = found at hunit ⊢
  rw [hunit]
  exact if_neg hlarge

theorem spelled_of_ascii {style : Style} {c : Char} (hascii : c.toNat < 0x80) :
    spelled style c = [c.toNat] := by
  have hunit := Text.unit?_of_ascii hascii
  rw [spelled_of_none hunit, units_of_lt hunit (by omega), ite_self]

/-- A character is read by one code of its own, or by a pair of units. -/
theorem spelled_cases (style : Style) (c : Char) :
    (∃ code, spelled style c = [code] ∧ Text.ofCode code = c ∧
        (isHighUnit code = true → Text.isHigh c = true) ∧
        (isLowUnit code = true → Text.isLow c = true)) ∨
      ∃ high low, spelled style c = [high, low] ∧ isHighUnit high = true ∧ isLowUnit low = true ∧
        Char.ofNat (0x10000 + (high - 0xd800) * 0x400 + (low - 0xdc00)) = c := by
  cases hunit : Text.unit? c with
  | some unit =>
      have hlarge := le_toNat_of_unit hunit
      have hoffset : Text.unitOffset = 0xd0000 := rfl
      refine Or.inl ?_
      by_cases hescaped : (style.units || style.ascii) = true
      · refine ⟨unit, (spelled_of_unit hunit).trans (if_pos hescaped),
          Text.ofCode_of_unit? hunit, ?_, ?_⟩
        · simp [Text.isHigh, hunit]
        · simp [Text.isLow, hunit]
      · -- a unit that is left as it is stands for itself, and has a code that is no unit
        refine ⟨c.toNat, (spelled_of_unit hunit).trans (if_neg hescaped), Text.ofCode_toNat c,
          ?_, ?_⟩
        · simp only [isHighUnit, Bool.and_eq_true, decide_eq_true_eq]
          omega
        · simp only [isLowUnit, Bool.and_eq_true, decide_eq_true_eq]
          omega
  | none =>
      have hvalid := Text.toNat_valid c
      -- only a style in ASCII splits a character, and only one that is no single unit
      by_cases hpair : style.ascii = true ∧ 0x10000 ≤ c.toNat
      · obtain ⟨hascii, hlarge⟩ := hpair
        refine Or.inr ⟨0xd800 + (c.toNat - 0x10000) / 0x400, 0xdc00 + (c.toNat - 0x10000) % 0x400,
          ?_, ?_, ?_, ?_⟩
        · have hsmall : ¬ c.toNat < 0x10000 := by omega
          rw [spelled_of_none hunit, if_pos hascii, units_of_not_lt hunit hsmall]
        · simp only [isHighUnit, Bool.and_eq_true, decide_eq_true_eq]
          omega
        · simp only [isLowUnit, Bool.and_eq_true, decide_eq_true_eq]
          omega
        · have hsum : 0x10000 + (0xd800 + (c.toNat - 0x10000) / 0x400 - 0xd800) * 0x400 +
              (0xdc00 + (c.toNat - 0x10000) % 0x400 - 0xdc00) = c.toNat := by omega
          rw [hsum, Char.ofNat_toNat]
      · refine Or.inl ⟨c.toNat, ?_, Text.ofCode_toNat c, ?_, ?_⟩
        · cases hascii : style.ascii with
          | false =>
              rw [spelled_of_none hunit, hascii]
              rfl
          | true =>
              have hsmall : c.toNat < 0x10000 := by
                simp only [hascii, true_and] at hpair
                omega
              rw [spelled_of_none hunit, if_pos hascii, units_of_lt hunit hsmall]
        · simp only [isHighUnit, Bool.and_eq_true, decide_eq_true_eq]
          omega
        · simp only [isLowUnit, Bool.and_eq_true, decide_eq_true_eq]
          omega

/-! ## Joining -/

theorem joinUnits_cons {code : Nat} {codes : List Nat}
    (hnot : ∀ next ∈ codes.head?, ¬ (isHighUnit code = true ∧ isLowUnit next = true)) :
    joinUnits (code :: codes) = Text.ofCode code :: joinUnits codes := by
  cases codes with
  | nil => rfl
  | cons next codes =>
      rw [joinUnits, if_neg (hnot next rfl)]

/-- The codes of a character that is no second unit do not begin with a second unit. -/
theorem isLowUnit_of_mem_head? {style : Style} {c : Char} (hlow : Text.isLow c = false)
    {codes : List Nat} {code : Nat} (hmem : code ∈ (spelled style c ++ codes).head?) :
    isLowUnit code = false := by
  rcases spelled_cases style c with ⟨own, hspelled, -, -, hown⟩ |
    ⟨high, low, hspelled, hhigh, -, -⟩
  · rw [hspelled] at hmem
    cases hmem
    refine Bool.eq_false_iff.mpr fun hcode => ?_
    rw [hown hcode] at hlow
    cases hlow
  · rw [hspelled] at hmem
    cases hmem
    simp only [isHighUnit, isLowUnit, Bool.and_eq_true, Bool.and_eq_false_iff, decide_eq_true_eq,
      decide_eq_false_iff_not] at hhigh ⊢
    omega

/-- The codes of a text without pairs of unpaired units are joined to the text. -/
theorem joinUnits_spelled (style : Style) {text : List Char}
    (hjoined : Text.hasNoPair text = true) :
    joinUnits (text.flatMap (spelled style)) = text := by
  induction text with
  | nil => rfl
  | cons c rest ih =>
      have hrest : Text.hasNoPair rest = true := by
        cases rest with
        | nil => rfl
        | cons next rest => simpa [Text.hasNoPair] using (Bool.and_eq_true .. ▸ hjoined).2
      rw [List.flatMap_cons]
      rcases spelled_cases style c with ⟨code, hspelled, hcode, hhigh, -⟩ |
        ⟨high, low, hspelled, hhigh, hlow, hpair⟩
      · rw [hspelled, List.singleton_append, joinUnits_cons, ih hrest, hcode]
        intro next hnext hunits
        cases rest with
        | nil => cases hnext
        | cons second rest =>
            -- a first unit comes before the second character, which is no second unit then
            have hlow : Text.isLow second = false := by
              simp only [Text.hasNoPair, Bool.and_eq_true, Bool.not_eq_true',
                Bool.and_eq_false_iff] at hjoined
              rw [hhigh hunits.1] at hjoined
              simpa using hjoined.1
            rw [List.flatMap_cons] at hnext
            have hnot := isLowUnit_of_mem_head? hlow hnext
            rw [hunits.2] at hnot
            cases hnot
      · rw [hspelled]
        show joinUnits (high :: low :: rest.flatMap (spelled style)) = _
        rw [joinUnits, if_pos ⟨hhigh, hlow⟩, ih hrest, hpair]

/-! ## Strings -/

theorem stringCodes_unicodeEscape {unit : Nat} (hunit : unit < 0x10000) {text left : List Char}
    {codes : List Nat} (htext : stringCodes text = .ok (codes, left)) :
    stringCodes ('\\' :: 'u' :: (Text.hexDigits 4 unit ++ text)) = .ok (unit :: codes, left) := by
  obtain ⟨a, b, c, d, hdigits, hread⟩ := hexDigits_spec hunit
  rw [hdigits]
  show stringCodes ('\\' :: 'u' :: a :: b :: c :: d :: text) = _
  rw [stringCodes, hread, htext]
  rfl

theorem stringCodes_shortEscape (style : Style) {letter c : Char}
    (hletter : shortEscape? letter = some c) (hascii : c.toNat < 0x80) {text left : List Char}
    {codes : List Nat} (htext : stringCodes text = .ok (codes, left)) :
    stringCodes ('\\' :: letter :: text) = .ok (spelled style c ++ codes, left) := by
  rw [stringCodes, hletter, htext, spelled_of_ascii hascii]
  · rfl
  · intro a b c d rest hu
    rw [hu] at hletter
    cases hletter

theorem spelled_of_unicodeEscape {style : Style} {c : Char}
    (hescape : c.toNat < 0x20 ∨ style.ascii = true ∧ 0x7f ≤ c.toNat ∨
      style.units = true ∧ (Text.unit? c).isSome = true) :
    spelled style c = units c := by
  cases hunit : Text.unit? c with
  | some unit =>
      have hescaped : (style.units || style.ascii) = true := by
        have hlarge := le_toNat_of_unit hunit
        rw [Bool.or_eq_true]
        rcases hescape with hcontrol | ⟨hascii, -⟩ | ⟨hunits, -⟩
        · omega
        · exact Or.inr hascii
        · exact Or.inl hunits
      rw [spelled_of_unit hunit, if_pos hescaped, units_of_unit hunit]
  | none =>
      rw [spelled_of_none hunit]
      rcases hescape with hcontrol | ⟨hascii, -⟩ | ⟨-, hpaired⟩
      · rw [units_of_lt hunit (by omega), ite_self]
      · rw [if_pos hascii]
      · rw [hunit] at hpaired
        cases hpaired

theorem units_lt {c : Char} {unit : Nat} (hmem : unit ∈ units c) : unit < 0x10000 := by
  cases hunit : Text.unit? c with
  | some found =>
      obtain ⟨hisUnit, -⟩ := Text.of_unit?_eq_some hunit
      simp only [Text.isUnit, Bool.and_eq_true, decide_eq_true_eq] at hisUnit
      rw [units_of_unit hunit, List.mem_singleton] at hmem
      omega
  | none =>
      have hvalid := Text.toNat_valid c
      by_cases hsmall : c.toNat < 0x10000
      · rw [units_of_lt hunit hsmall, List.mem_singleton] at hmem
        omega
      · rw [units_of_not_lt hunit hsmall, List.mem_cons, List.mem_singleton] at hmem
        omega

theorem stringCodes_unicodeEscapes {units : List Nat} (hunits : ∀ unit ∈ units, unit < 0x10000)
    {text left : List Char} {codes : List Nat} (htext : stringCodes text = .ok (codes, left)) :
    stringCodes ((units.flatMap fun unit => '\\' :: 'u' :: Text.hexDigits 4 unit) ++ text) =
      .ok (units ++ codes, left) := by
  induction units with
  | nil => exact htext
  | cons unit rest ih =>
      have hrest := ih fun other hother => hunits other (List.mem_cons_of_mem _ hother)
      rw [List.flatMap_cons, List.append_assoc]
      exact stringCodes_unicodeEscape (hunits unit (List.mem_cons_self ..)) hrest

theorem stringCodes_plain {c : Char} (hquote : ¬ (c = '"' ∨ c = '\\')) (hprints : ¬ c.toNat < 0x20)
    {text left : List Char} {codes : List Nat} (htext : stringCodes text = .ok (codes, left)) :
    stringCodes (c :: text) = .ok (c.toNat :: codes, left) := by
  rw [not_or] at hquote
  have hreads : ¬ (c.toNat < 0x20 ∨ c = '\\') := by
    rintro (hlt | heq)
    · exact hprints hlt
    · exact hquote.2 heq
  rw [stringCodes, if_neg hreads, htext]
  · rfl
  · exact hquote.1
  · intro a b c d rest heq
    exact absurd heq hquote.2
  · intro letter rest heq
    exact absurd heq hquote.2

theorem stringCodes_stringChar (style : Style) (c : Char) {text left : List Char}
    {codes : List Nat} (htext : stringCodes text = .ok (codes, left)) :
    stringCodes (stringChar style c ++ text) = .ok (spelled style c ++ codes, left) := by
  unfold stringChar
  split_ifs with hquote hline hreturn htab hback hfeed hescape
  · rcases hquote with rfl | rfl
    · exact stringCodes_shortEscape style rfl (by decide) htext
    · exact stringCodes_shortEscape style rfl (by decide) htext
  · subst hline
    exact stringCodes_shortEscape style rfl (by decide) htext
  · subst hreturn
    exact stringCodes_shortEscape style rfl (by decide) htext
  · subst htab
    exact stringCodes_shortEscape style rfl (by decide) htext
  · subst hback
    exact stringCodes_shortEscape style rfl (by decide) htext
  · subst hfeed
    exact stringCodes_shortEscape style rfl (by decide) htext
  · rw [spelled_of_unicodeEscape hescape]
    exact stringCodes_unicodeEscapes (fun unit => units_lt) htext
  · -- in ASCII, what is not escaped is so small that it is a single unit
    rw [not_or, not_or] at hescape
    obtain ⟨hprints, hnarrow, hpaired⟩ := hescape
    have hspelled : spelled style c = [c.toNat] := by
      cases hunit : Text.unit? c with
      | some unit =>
          rw [spelled_of_unit hunit, if_neg]
          rw [Bool.or_eq_true]
          rintro (hunits | hascii)
          · exact hpaired ⟨hunits, by rw [hunit]; rfl⟩
          · have hlarge := le_toNat_of_unit hunit
            exact hnarrow ⟨hascii, by omega⟩
      | none =>
          rw [spelled_of_none hunit]
          split_ifs with hascii
          · have hsmall : ¬ 0x7f ≤ c.toNat := fun hle => hnarrow ⟨hascii, hle⟩
            rw [units_of_lt hunit (by omega)]
          · rfl
    rw [hspelled]
    exact stringCodes_plain hquote hprints htext

theorem stringCodes_stringText (style : Style) (text rest : List Char) :
    stringCodes (text.flatMap (stringChar style) ++ '"' :: rest) =
      .ok (text.flatMap (spelled style), rest) := by
  induction text with
  | nil => rfl
  | cons c text ih =>
      rw [List.flatMap_cons, List.flatMap_cons, List.append_assoc]
      exact stringCodes_stringChar style c ih

/-- A string is read back if it has no pair of unpaired units. -/
theorem readString_stringText (style : Style) {text : String} (hjoined : Text.isJoined text = true)
    (rest : List Char) :
    readString (text.toList.flatMap (stringChar style) ++ '"' :: rest) = .ok (text, rest) := by
  rw [readString, stringCodes_stringText]
  show Except.ok (String.ofList (joinUnits (text.toList.flatMap (spelled style))), rest) = _
  rw [joinUnits_spelled style hjoined, String.ofList_toList]

end Json

end VisualNovel
