import VisualNovel.Json.Bytes
import VisualNovel.Proofs.Json.Readings
import VisualNovel.Proofs.Text.Utf8

/-!
# Bytes are read back

What is written to a file or sent in a message is read back as the value, if it is not too deep.
A file is UTF-8 anyway; of a message the encoding is guessed, and the text of a value begins with
characters by which it is guessed right: the first one is of ASCII, and no byte of the second one
is zero.
-/

namespace VisualNovel

/-! ## Bytes of texts -/

theorem fromUTF8?_toUTF8 (text : String) : String.fromUTF8? text.toUTF8 = some text :=
  dif_pos text.isValidUTF8

theorem toList_loop_eq (bytes : ByteArray) (position : Nat) (read : List UInt8) :
    ByteArray.toList.loop bytes position read =
      read.reverse ++ bytes.data.toList.drop position := by
  fun_induction ByteArray.toList.loop bytes position read with
  | case1 position read hlt ih =>
      have hlength : position < bytes.data.toList.length := by
        rw [Array.length_toList]
        exact hlt
      have hbyte : bytes.get! position = bytes.data.toList[position] := by
        rw [Array.getElem_toList]
        exact getElem!_pos bytes.data position hlt
      rw [ih, List.reverse_cons, List.append_assoc, hbyte, List.drop_eq_getElem_cons hlength]
      rfl
  | case2 position read hle =>
      have hlength : bytes.data.toList.length ≤ position := by
        rw [Array.length_toList]
        exact Nat.le_of_not_lt hle
      rw [List.drop_of_length_le hlength, List.append_nil]

theorem toList_eq (bytes : ByteArray) : bytes.toList = bytes.data.toList := by
  rw [ByteArray.toList, toList_loop_eq]
  rfl

theorem toList_toUTF8 (chars : List Char) :
    (String.ofList chars).toUTF8.toList = chars.flatMap String.utf8EncodeChar := by
  rw [toList_eq]
  exact List.toList_data_toByteArray

namespace Json

/-! ## The first bytes of a message -/

/-- No byte of a character is zero, unless it is the character with the code zero. -/
theorem ne_zero_of_mem_utf8EncodeChar {c : Char} (hnull : c ≠ '\x00') {byte : UInt8}
    (hmem : byte ∈ String.utf8EncodeChar c) : byte ≠ 0 := by
  rintro rfl
  rcases Nat.lt_or_ge c.toNat 0x80 with hlt | hle
  · rw [Text.Utf8.utf8EncodeChar_of_ascii hlt, List.mem_singleton] at hmem
    have hcode : 0 = c.toNat := by
      rw [← Text.Utf8.toNat_ofNat (show c.toNat < 0x100 by omega), ← hmem]
      rfl
    exact hnull (Char.ext (UInt32.toNat_inj.mp hcode.symm))
  · exact absurd (Text.Utf8.le_of_mem_utf8EncodeChar hle hmem) (by decide)

theorem utf8EncodeChar_of_isVisible {c : Char} (hvisible : isVisible c = true) :
    String.utf8EncodeChar c = [UInt8.ofNat c.toNat] := by
  rw [isVisible, Bool.and_eq_true, decide_eq_true_eq, decide_eq_true_eq] at hvisible
  exact Text.Utf8.utf8EncodeChar_of_ascii (by omega)

/-- Bytes that begin with one of ASCII and another one that is not zero are UTF-8. -/
theorem detectEncoding_of_ascii {first : UInt8} (hpos : 0 < first) (hascii : first < 0x80)
    {rest : List UInt8} (hsecond : ∀ second ∈ rest.head?, second ≠ 0) :
    detectEncoding (first :: rest) = (.utf8, first :: rest) := by
  have hzero : first ≠ 0 := by
    rintro rfl
    exact absurd hpos (by decide)
  have hmark : ∀ mark ∈ marks, ¬ mark.1.isPrefixOf (first :: rest) = true := by
    -- marks do not begin with ASCII
    have hbegin : ∀ mark ∈ marks, ∃ begin others, mark.1 = begin :: others ∧
        (begin = 0 ∨ 0x80 ≤ begin) := by
      simp [marks]
    intro mark hmem hprefix
    obtain ⟨begin, others, hmark, hnot⟩ := hbegin mark hmem
    rw [hmark, List.isPrefixOf, Bool.and_eq_true, beq_iff_eq] at hprefix
    obtain ⟨rfl, -⟩ := hprefix
    rcases hnot with hnot | hnot
    · exact hzero hnot
    · exact absurd hnot (UInt8.not_le.mpr hascii)
  have hunmarked : unmarkedEncoding (first :: rest) = .utf8 := by
    -- how many bytes there are decides what is asked of them
    match rest, hsecond with
    | [], _ => rfl
    | [second], hsecond =>
        rw [unmarkedEncoding, if_neg hzero, if_neg (hsecond second rfl)]
    | [_, _], _ => rfl
    | second :: _ :: _ :: _, hsecond =>
        rw [unmarkedEncoding, if_neg hzero, if_neg (hsecond second rfl)]
  rw [detectEncoding, List.find?_eq_none.mpr hmark, hunmarked]

/-! ## The first characters of a value -/

theorem isVisible_positional {digits : List Char} (hdigits : ∀ c ∈ digits, c.isDigit = true)
    (leading : Int) : ∀ c ∈ Binary64.positional digits leading, isVisible c = true := by
  intro c hmem
  cases leading with
  | negSucc zeros =>
      simp only [Binary64.positional, List.mem_cons, List.mem_append] at hmem
      rcases hmem with rfl | rfl | hmem | hmem
      · rfl
      · rfl
      · exact isVisible_of_isDigit (Numeral.isDigit_of_mem_zeros hmem)
      · exact isVisible_of_isDigit (hdigits c hmem)
  | ofNat wholes =>
      simp only [Binary64.positional, List.mem_cons, List.mem_append] at hmem
      rcases hmem with (hmem | hmem) | rfl | hmem
      · exact isVisible_of_isDigit (hdigits c (List.mem_of_mem_take hmem))
      · exact isVisible_of_isDigit (Numeral.isDigit_of_mem_zeros hmem)
      · rfl
      · split_ifs at hmem
        · rw [List.mem_singleton.mp hmem]
          rfl
        · exact isVisible_of_isDigit (hdigits c (List.mem_of_mem_drop hmem))

theorem isVisible_scientific {layout : Binary64.Layout} {digits : List Char}
    (hdigits : ∀ c ∈ digits, c.isDigit = true) (leading : Int) :
    ∀ c ∈ Binary64.scientific layout digits leading, isVisible c = true := by
  intro c hmem
  simp only [Binary64.scientific, List.mem_append, List.mem_cons] at hmem
  rcases hmem with hmem | rfl | rfl | hmem
  · rcases digits with _ | ⟨digit, _ | ⟨next, rest⟩⟩
    · cases hmem
    · exact isVisible_of_isDigit (hdigits c hmem)
    · rcases List.mem_cons.mp hmem with rfl | hmem
      · exact isVisible_of_isDigit (hdigits c (List.mem_cons_self ..))
      · rcases List.mem_cons.mp hmem with rfl | hmem
        · rfl
        · exact isVisible_of_isDigit (hdigits c (List.mem_cons_of_mem _ hmem))
  · rfl
  · split_ifs <;> rfl
  · exact isVisible_of_isDigit (Numeral.isDigit_of_mem_paddedDigits hmem)

theorem isVisible_of_mem_numberText {number : Number} {c : Char} (hmem : c ∈ numberText number) :
    isVisible c = true := by
  have hsigned : ∀ (negative : Bool) {text : List Char}, (∀ c ∈ text, isVisible c = true) →
      c ∈ (if negative then ['-'] else []) ++ text → isVisible c = true := by
    intro negative text htext hmem
    rcases List.mem_append.mp hmem with hsign | hmem
    · cases negative with
      | false => exact nomatch hsign
      | true => exact List.mem_singleton.mp hsign ▸ rfl
    · exact htext c hmem
  match number with
  | .whole value =>
      have hdigits : ∀ c ∈ Nat.toDigits 10 value.natAbs, isVisible c = true :=
        fun c hmem => isVisible_of_isDigit (Numeral.isDigit_of_mem_toDigits hmem)
      refine hsigned (decide (value < 0)) hdigits ?_
      simpa [numberText, Numeral.ofInt] using hmem
  | .real .nan =>
      have hnan : (numberText (.real .nan)).all isVisible = true := by decide
      exact List.all_eq_true.mp hnan c hmem
  | .real (.infinite negative) =>
      have hinfinite : ∀ negative,
          (numberText (.real (.infinite negative))).all isVisible = true := by
        decide
      exact List.all_eq_true.mp (hinfinite negative) c hmem
  | .real (.finite negative significand exponent) =>
      have hdigits : ∀ c ∈ Nat.toDigits 10 (Binary64.shortest significand exponent).digits,
          c.isDigit = true := fun c => Numeral.isDigit_of_mem_toDigits
      refine hsigned negative ?_ hmem
      intro c hmem
      split_ifs at hmem
      · exact isVisible_positional hdigits _ c hmem
      · exact isVisible_scientific hdigits _ c hmem

theorem stringChar_eq_cons (style : Style) (c : Char) :
    ∃ first others, stringChar style c = first :: others ∧ first ≠ '\x00' := by
  have hescape : ∃ first others, unicodeEscape c = first :: others ∧ first ≠ '\x00' := by
    obtain ⟨unit, others, hunits⟩ : ∃ unit others, units c = unit :: others := by
      unfold units
      split
      · exact ⟨_, _, rfl⟩
      · split_ifs <;> exact ⟨_, _, rfl⟩
    rw [unicodeEscape, hunits, List.flatMap_cons, List.cons_append]
    exact ⟨'\\', _, rfl, by decide⟩
  unfold stringChar
  split_ifs with _ _ _ _ _ _ hescaped
  · exact ⟨'\\', [c], rfl, by decide⟩
  · exact ⟨'\\', ['n'], rfl, by decide⟩
  · exact ⟨'\\', ['r'], rfl, by decide⟩
  · exact ⟨'\\', ['t'], rfl, by decide⟩
  · exact ⟨'\\', ['b'], rfl, by decide⟩
  · exact ⟨'\\', ['f'], rfl, by decide⟩
  · exact hescape
  · refine ⟨c, [], rfl, ?_⟩
    rintro rfl
    exact hescaped (Or.inl (by decide))

theorem ne_null_of_isVisible {c : Char} (hvisible : isVisible c = true) : c ≠ '\x00' := by
  rintro rfl
  cases hvisible

/-- A value on the wire begins with a character of ASCII, and then not with one that has the code
zero. -/
theorem render_wire_eq_cons (value : Json) :
    ∃ first others, render .wire 0 value = first :: others ∧ isVisible first = true ∧
      ∀ second ∈ others.head?, second ≠ '\x00' := by
  obtain ⟨first, others, hrender, -, hvisible⟩ := render_eq_cons .wire 0 value
  refine ⟨first, others, hrender, hvisible, ?_⟩
  intro second hsecond
  have hmem : second ∈ others := List.mem_of_mem_head? hsecond
  match value with
  | .null => cases hrender; cases hsecond; decide
  | .bool true => cases hrender; cases hsecond; decide
  | .bool false => cases hrender; cases hsecond; decide
  -- numbers are visible throughout, and of the rest the second character is looked up
  | .num number =>
      rw [render] at hrender
      have hnumber : second ∈ numberText number := hrender ▸ List.mem_cons_of_mem _ hmem
      exact ne_null_of_isVisible (isVisible_of_mem_numberText hnumber)
  | .str text =>
      rw [render, stringText] at hrender
      obtain ⟨-, rfl⟩ := List.cons.inj hrender
      generalize text.toList = chars at hsecond
      cases chars with
      | nil => cases hsecond; decide
      | cons c rest =>
          obtain ⟨initial, escape, hchar, hne⟩ := stringChar_eq_cons .wire c
          rw [List.flatMap_cons, hchar] at hsecond
          cases hsecond
          exact hne
  | .arr [] => cases hrender; cases hsecond; decide
  | .arr (item :: items) =>
      obtain ⟨initial, rest, hitem, -, hinitial⟩ := render_eq_cons .wire 1 item
      rw [render, renderItems_cons, hitem] at hrender
      · obtain ⟨-, rfl⟩ := List.cons.inj hrender
        cases hsecond
        exact ne_null_of_isVisible hinitial
      · exact List.cons_ne_nil _ _
  | .obj [] => cases hrender; cases hsecond; decide
  | .obj ((key, value) :: fields) =>
      rw [render, renderFields_cons, stringText] at hrender
      · obtain ⟨-, rfl⟩ := List.cons.inj hrender
        cases hsecond
        decide
      · exact List.cons_ne_nil _ _

variable [Room] {place : Place} {value : Json}

/-! ## Files -/

/-- A file with the text of a value is read as the value. -/
theorem parseFile_toText {style : Style} (hexact : IsExact value)
    (hdepth : nesting value ≤ Room.depth place) :
    parseFile place (value.toText style).toUTF8 = .ok value := by
  rw [parseFile, fromUTF8?_toUTF8]
  show (readText _ (value.toText style).toList).mapError BytesFault.text = _
  rw [readText_toText hexact hdepth]
  rfl

theorem parseFile_tooDeep {style : Style} {container : Container} (hexact : IsExact value)
    (hdeep : excess? (Room.depth place) value = some container) :
    parseFile place (value.toText style).toUTF8 = .error (.text (.tooDeep container)) := by
  rw [parseFile, fromUTF8?_toUTF8]
  show (readText _ (value.toText style).toList).mapError BytesFault.text = _
  rw [readText_tooDeep hexact hdeep]
  rfl

/-- A value that a file is read as is tidy and not too deep. -/
theorem readable_of_parseFile {bytes : ByteArray} (hparse : parseFile place bytes = .ok value) :
    Readable value (Room.depth place) := by
  unfold parseFile at hparse
  cases htext : String.fromUTF8? bytes with
  | none =>
      rw [htext] at hparse
      cases hparse
  | some text =>
      rw [htext] at hparse
      cases hread : readText (Room.depth place) text.toList with
      | error fault =>
          simp only [hread] at hparse
          cases hparse
      | ok found =>
          simp only [hread] at hparse
          cases hparse
          exact readable_of_readText hread

/-! ## Messages -/

/-- Of a message with the text of a value, the text is read. -/
theorem parseMessage_wire (place : Place) (value : Json) :
    parseMessage place (value.toText .wire).toUTF8 =
      (readText (Room.depth place) (value.toText .wire).toList).mapError .text := by
  obtain ⟨first, others, hrender, hvisible, hsecond⟩ := render_wire_eq_cons value
  have hbytes : (value.toText .wire).toUTF8.toList =
      UInt8.ofNat first.toNat :: others.flatMap String.utf8EncodeChar := by
    rw [toText, toList_toUTF8, hrender, List.flatMap_cons, utf8EncodeChar_of_isVisible hvisible]
    rfl
  -- the encoding is told from the first two bytes, neither of which is zero
  have hdetect : detectEncoding (value.toText .wire).toUTF8.toList =
      (.utf8, (value.toText .wire).toUTF8.toList) := by
    rw [isVisible, Bool.and_eq_true, decide_eq_true_eq, decide_eq_true_eq] at hvisible
    have hcode : (UInt8.ofNat first.toNat).toNat = first.toNat := by
      rw [UInt8.toNat_ofNat', Nat.mod_eq_of_lt (by omega)]
    rw [hbytes]
    refine detectEncoding_of_ascii ?_ ?_ ?_
    · rw [UInt8.lt_iff_toNat_lt, hcode]
      show 0 < first.toNat
      omega
    · rw [UInt8.lt_iff_toNat_lt, hcode]
      show first.toNat < 128
      omega
    · intro byte hbyte
      cases others with
      | nil => cases hbyte
      | cons second rest =>
          rw [List.flatMap_cons, List.head?_append_of_ne_nil _ String.utf8EncodeChar_ne_nil]
            at hbyte
          exact ne_zero_of_mem_utf8EncodeChar (hsecond second rfl) (List.mem_of_mem_head? hbyte)
  have hdecode : decodeAs? .utf8 (value.toText .wire).toUTF8.toList =
      some (value.toText .wire).toList := by
    rw [decodeAs?, toList_eq, Array.toArray_toList]
    show ((String.fromUTF8? (value.toText .wire).toUTF8).map String.toList).or _ = _
    rw [fromUTF8?_toUTF8]
    rfl
  rw [parseMessage, hdetect]
  simp only [hdecode]

/-- A message with the text of a value is read as the value. -/
theorem parseMessage_toText (hexact : IsExact value) (hdepth : nesting value ≤ Room.depth place) :
    parseMessage place (value.toText .wire).toUTF8 = .ok value := by
  rw [parseMessage_wire, readText_toText hexact hdepth]
  rfl

theorem parseMessage_tooDeep {container : Container} (hexact : IsExact value)
    (hdeep : excess? (Room.depth place) value = some container) :
    parseMessage place (value.toText .wire).toUTF8 = .error (.text (.tooDeep container)) := by
  rw [parseMessage_wire, readText_tooDeep hexact hdeep]
  rfl

end Json

end VisualNovel
