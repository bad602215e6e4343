import VisualNovel.Proofs.Json.Bytes
import VisualNovel.Proofs.Text.Utf8
import VisualNovel.Text.Percent

/-!
# Percent encoding can be undone

A text that is encoded as a component of a URL consists of unreserved characters and of triples, a
percent sign with two digits each (`IsComponent`).  So no character in it has a meaning of its own
in a URL.  It does not matter whether characters are kept or bytes: the bytes of the characters
that are encoded are none of an unreserved character (`encode_eq_octets`).

Decoding takes back the bytes, since a triple is the only thing in a component that begins with a
percent sign (`decodeBytes_encode`), and from the bytes the text.  Hence different texts have
different encodings.
-/

namespace VisualNovel.Percent

variable {c : Char} {text : List Char}

/-- The characters that stand for themselves. -/
def unreserved : List Char :=
  ['A', 'B', 'C', 'D', 'E', 'F', 'G', 'H', 'I', 'J', 'K', 'L', 'M',
   'N', 'O', 'P', 'Q', 'R', 'S', 'T', 'U', 'V', 'W', 'X', 'Y', 'Z',
   'a', 'b', 'c', 'd', 'e', 'f', 'g', 'h', 'i', 'j', 'k', 'l', 'm',
   'n', 'o', 'p', 'q', 'r', 's', 't', 'u', 'v', 'w', 'x', 'y', 'z',
   '0', '1', '2', '3', '4', '5', '6', '7', '8', '9',
   '_', '.', '~', '!', '*', '\'', '(', ')', '-']

/-- The digits of triples. -/
def upperDigits : List Char :=
  ['0', '1', '2', '3', '4', '5', '6', '7', '8', '9', 'A', 'B', 'C', 'D', 'E', 'F']

/-- Does the text consist of unreserved characters and of triples? -/
inductive IsComponent : List Char → Prop
  | nil : IsComponent []
  | kept {c : Char} {rest : List Char} (hunreserved : c ∈ unreserved) (hrest : IsComponent rest) :
      IsComponent (c :: rest)
  | triple {high low : Char} {rest : List Char} (hhigh : high ∈ upperDigits)
      (hlow : low ∈ upperDigits) (hrest : IsComponent rest) :
      IsComponent ('%' :: high :: low :: rest)

/-- A byte as a triple. -/
def triple (byte : UInt8) : List Char :=
  ['%', upperDigits.getD (byte.toNat / 16) '0', upperDigits.getD (byte.toNat % 16) '0']

/-! ## Characters and digits -/

theorem toNat_lt_of_isUnreserved (hkept : isUnreserved c = true) : c.toNat < 0x80 := by
  rw [isUnreserved, Bool.or_eq_true, List.contains_iff_mem] at hkept
  rcases hkept with halphanum | hmark
  · exact Text.toNat_lt_of_isAlphanum halphanum
  · have hmarks : ("-_.~!*'()".toList.all fun mark => mark.toNat < 0x80) = true := by decide
    exact of_decide_eq_true (List.all_eq_true.mp hmarks c hmark)

theorem isUnreserved_iff : isUnreserved c = true ↔ c ∈ unreserved := by
  constructor
  · -- only the characters of ASCII have to be gone through
    intro hkept
    exact Text.of_ascii (fun c => isUnreserved c = true → c ∈ unreserved) (by decide +kernel)
      (toNat_lt_of_isUnreserved hkept) hkept
  · intro hmem
    have hall : unreserved.all isUnreserved = true := by decide +kernel
    exact List.all_eq_true.mp hall c hmem

theorem toNat_lt_of_mem_unreserved (hmem : c ∈ unreserved) : c.toNat < 0x80 :=
  toNat_lt_of_isUnreserved (isUnreserved_iff.mpr hmem)

theorem mem_unreserved_of_mem_upperDigits (hmem : c ∈ upperDigits) : c ∈ unreserved := by
  have hall : upperDigits.all unreserved.contains = true := by decide
  exact List.contains_iff_mem.mp (List.all_eq_true.mp hall c hmem)

theorem hexDigit_eq : ∀ value < 16, hexDigit value = upperDigits.getD value '0' := by decide

theorem hexDigit_mem : ∀ value < 16, upperDigits.getD value '0' ∈ upperDigits := by decide

theorem hexValue?_upperDigit :
    ∀ value < 16, hexValue? (upperDigits.getD value '0') = some value := by
  decide

theorem encodeByte_eq (byte : UInt8) : encodeByte byte = triple byte := by
  have hlt := byte.toNat_lt
  rw [encodeByte, triple, hexDigit_eq _ (by omega), hexDigit_eq _ (by omega)]

/-! ## Encoding -/

theorem encodeChar_eq (c : Char) :
    encodeChar isUnreserved c =
      if c ∈ unreserved then [c] else (String.utf8EncodeChar c).flatMap triple := by
  rw [encodeChar, if_congr isUnreserved_iff rfl rfl]
  congr 2
  funext byte
  exact encodeByte_eq byte

theorem toList_encode (text : String) :
    (encode text).toList = text.toList.flatMap (encodeChar isUnreserved) := by
  rw [encode, encodeWith, String.toList_ofList]

theorem encode_append (first second : String) :
    encode (first ++ second) = encode first ++ encode second := by
  rw [← String.toList_inj, String.toList_append, toList_encode, toList_encode, toList_encode,
    String.toList_append, List.flatMap_append]

/-! ## What an encoding consists of -/

namespace IsComponent

theorem append {first second : List Char} (hfirst : IsComponent first)
    (hsecond : IsComponent second) : IsComponent (first ++ second) := by
  induction hfirst with
  | nil => exact hsecond
  | kept hunreserved _ ih => exact .kept hunreserved ih
  | triple hhigh hlow _ ih => exact .triple hhigh hlow ih

/-- All characters are unreserved, except for percent signs. -/
theorem mem_cases (hcomponent : IsComponent text) (hmem : c ∈ text) : c ∈ unreserved ∨ c = '%' := by
  induction hcomponent with
  | nil => cases hmem
  | kept hunreserved _ ih =>
      rcases List.mem_cons.mp hmem with rfl | hmem
      · exact Or.inl hunreserved
      · exact ih hmem
  | triple hhigh hlow _ ih =>
      rcases List.mem_cons.mp hmem with rfl | hmem
      · exact Or.inr rfl
      rcases List.mem_cons.mp hmem with rfl | hmem
      · exact Or.inl (mem_unreserved_of_mem_upperDigits hhigh)
      rcases List.mem_cons.mp hmem with rfl | hmem
      · exact Or.inl (mem_unreserved_of_mem_upperDigits hlow)
      · exact ih hmem

theorem not_mem (hcomponent : IsComponent text) (hreserved : c ∉ unreserved)
    (hpercent : c ≠ '%') : c ∉ text :=
  fun hmem => (hcomponent.mem_cases hmem).elim hreserved hpercent

theorem digits_of_percent (hcomponent : IsComponent text) {before after : List Char}
    (hsplit : text = before ++ '%' :: after) :
    ∃ high ∈ upperDigits, ∃ low ∈ upperDigits, ∃ rest, after = high :: low :: rest := by
  have hpercent : '%' ∉ unreserved := by decide
  have hdigits : '%' ∉ upperDigits := by decide
  induction hcomponent generalizing before with
  | nil => simp at hsplit
  | kept hunreserved _ ih =>
      cases before with
      | nil =>
          obtain ⟨rfl, -⟩ := List.cons.inj hsplit
          exact absurd hunreserved hpercent
      | cons _ before => exact ih (List.cons.inj hsplit).2
  | @triple high low rest hhigh hlow _ ih =>
      -- the sign begins the triple, or stands in what follows it
      match before, hsplit with
      | [], hsplit =>
          exact ⟨high, hhigh, low, hlow, rest, (List.cons.inj hsplit).2.symm⟩
      | [_], hsplit =>
          simp only [List.cons_append, List.nil_append, List.cons.injEq] at hsplit
          exact absurd (hsplit.2.1 ▸ hhigh) hdigits
      | [_, _], hsplit =>
          simp only [List.cons_append, List.nil_append, List.cons.injEq] at hsplit
          exact absurd (hsplit.2.2.1 ▸ hlow) hdigits
      | _ :: _ :: _ :: before, hsplit =>
          simp only [List.cons_append, List.cons.injEq] at hsplit
          exact ih hsplit.2.2.2

end IsComponent

theorem isComponent_triples (bytes : List UInt8) : IsComponent (bytes.flatMap triple) := by
  induction bytes with
  | nil => exact .nil
  | cons byte rest ih =>
      have hlt := byte.toNat_lt
      exact .triple (hexDigit_mem _ (by omega)) (hexDigit_mem _ (by omega)) ih

theorem isComponent_encode (text : String) : IsComponent (encode text).toList := by
  rw [toList_encode]
  induction text.toList with
  | nil => exact .nil
  | cons c rest ih =>
      rw [List.flatMap_cons, encodeChar_eq]
      split_ifs with hunreserved
      · exact .kept hunreserved ih
      · exact (isComponent_triples _).append ih

/-! ## Bytes instead of characters -/

/-- A byte of a text: the character that it is, if that is unreserved, or else the triple. -/
def encodeOctet (octet : UInt8) : List Char :=
  if Char.ofNat octet.toNat ∈ unreserved then [Char.ofNat octet.toNat] else triple octet

theorem encodeOctet_of_ge {octet : UInt8} (hle : 0x80 ≤ octet.toNat) :
    encodeOctet octet = triple octet := by
  refine if_neg fun hmem => ?_
  have hbyte : ∀ code < 0x100, (Char.ofNat code).toNat = code := by decide +kernel
  have hcode := hbyte octet.toNat octet.toNat_lt
  have hlt := toNat_lt_of_mem_unreserved hmem
  omega

theorem flatMap_encodeOctet (c : Char) :
    (String.utf8EncodeChar c).flatMap encodeOctet = encodeChar isUnreserved c := by
  rw [encodeChar_eq]
  rcases Nat.lt_or_ge c.toNat 0x80 with hlt | hle
  · rw [Text.Utf8.utf8EncodeChar_of_ascii hlt, List.flatMap_singleton, List.flatMap_singleton,
      encodeOctet, Text.Utf8.toNat_ofNat (by omega), Char.ofNat_toNat]
  · have hnot : c ∉ unreserved := fun hmem =>
      absurd (toNat_lt_of_mem_unreserved hmem) (Nat.not_lt.mpr hle)
    rw [if_neg hnot]
    refine List.flatMap_congr ?_
    intro byte hmem
    exact encodeOctet_of_ge (Text.Utf8.le_of_mem_utf8EncodeChar hle hmem)

theorem bytes_eq (text : String) :
    text.toUTF8.toList = text.toList.flatMap String.utf8EncodeChar := by
  rw [← toList_toUTF8, String.ofList_toList]

theorem encode_eq_octets (text : String) :
    (encode text).toList = text.toUTF8.toList.flatMap encodeOctet := by
  rw [toList_encode, bytes_eq, List.flatMap_assoc]
  refine List.flatMap_congr ?_
  intro c _
  exact (flatMap_encodeOctet c).symm

/-! ## Decoding -/

theorem decodeBytes_triple (byte : UInt8) (rest : List Char) :
    decodeBytes (triple byte ++ rest) = byte :: decodeBytes rest := by
  have hlt := byte.toNat_lt
  have hbyte : UInt8.ofNat (16 * (byte.toNat / 16) + byte.toNat % 16) = byte := by
    rw [Nat.div_add_mod, UInt8.ofNat_toNat]
  show decodeBytes ('%' :: _ :: _ :: rest) = _
  rw [decodeBytes, hexValue?_upperDigit _ (by omega), hexValue?_upperDigit _ (by omega)]
  simp only [hbyte]

theorem decodeBytes_triples (bytes : List UInt8) (rest : List Char) :
    decodeBytes (bytes.flatMap triple ++ rest) = bytes ++ decodeBytes rest := by
  induction bytes with
  | nil => rfl
  | cons byte more ih =>
      rw [List.flatMap_cons, List.append_assoc, decodeBytes_triple, ih, List.cons_append]

/-- What does not begin with a percent sign is decoded as it is. -/
theorem decodeBytes_cons_of_ne (hne : c ≠ '%') (rest : List Char) :
    decodeBytes (c :: rest) = String.utf8EncodeChar c ++ decodeBytes rest := by
  rw [decodeBytes]
  rintro high low others rfl
  exact absurd rfl hne

theorem decodeBytes_encodeChar (c : Char) (rest : List Char) :
    decodeBytes (encodeChar isUnreserved c ++ rest) =
      String.utf8EncodeChar c ++ decodeBytes rest := by
  rw [encodeChar_eq]
  split_ifs with hunreserved
  · have hne : c ≠ '%' := by
      rintro rfl
      exact absurd hunreserved (by decide)
    exact decodeBytes_cons_of_ne hne rest
  · exact decodeBytes_triples _ rest

/-- An encoded text stands for the bytes of the text. -/
theorem decodeBytes_encode (text : String) :
    decodeBytes (encode text).toList = text.toUTF8.toList := by
  rw [toList_encode, bytes_eq]
  induction text.toList with
  | nil => rfl
  | cons c rest ih => rw [List.flatMap_cons, List.flatMap_cons, decodeBytes_encodeChar, ih]

theorem decode_encode (text : String) : decode (encode text) = text := by
  rw [decode, decodeBytes_encode, bytes_eq, Text.Utf8.decodeLossy_encoded, String.ofList_toList]

theorem encode_injective : Function.Injective encode :=
  Function.LeftInverse.injective decode_encode

/-- The bytes of a text, put together again. -/
theorem fromUTF8?_bytes (text : String) :
    String.fromUTF8? ⟨text.toUTF8.toList.toArray⟩ = some text := by
  rw [toList_eq, Array.toArray_toList]
  exact fromUTF8?_toUTF8 text

/-- **Encoding a text as a component of a URL can be undone.** -/
theorem encode_invertible (text : String) :
    IsComponent (encode text).toList ∧
    (∀ mark ∈ "/?#&".toList, mark ∉ (encode text).toList) ∧
    (∀ before after, (encode text).toList = before ++ '%' :: after →
      ∃ high ∈ upperDigits, ∃ low ∈ upperDigits, ∃ rest, after = high :: low :: rest) ∧
    (encode text).toList = text.toList.flatMap (fun c =>
      if c ∈ unreserved then [c] else (String.utf8EncodeChar c).flatMap triple) ∧
    (encode text).toList = text.toUTF8.toList.flatMap encodeOctet ∧
    String.fromUTF8? ⟨(decodeBytes (encode text).toList).toArray⟩ = some text ∧
    decode (encode text) = text ∧
    (∀ other, encode other = encode text → other = text) ∧
    ∀ more, encode (text ++ more) = encode text ++ encode more := by
  have hcomponent := isComponent_encode text
  refine ⟨hcomponent, ?_, fun before after => hcomponent.digits_of_percent, ?_,
    encode_eq_octets text, ?_, decode_encode text, fun other hsame => encode_injective hsame,
    encode_append text⟩
  · have hmarks : ("/?#&".toList.all fun mark => mark ∉ unreserved ∧ mark ≠ '%') = true := by
      decide
    intro mark hmark
    obtain ⟨hreserved, hpercent⟩ := of_decide_eq_true (List.all_eq_true.mp hmarks mark hmark)
    exact hcomponent.not_mem hreserved hpercent
  · rw [toList_encode]
    refine List.flatMap_congr ?_
    intro c _
    exact encodeChar_eq c
  · rw [decodeBytes_encode]
    exact fromUTF8?_bytes text

/-- A text that looks like an encoded one is encoded once more, and so is not mistaken for the text
that it would stand for. -/
theorem encode_invertible_of_percent :
    encode "%2F" = "%252F" ∧ decode "%252F" = "%2F" ∧ encode "/" ≠ "%252F" ∧
      ∃ high ∈ upperDigits, ∃ low ∈ upperDigits, ∃ rest,
        ['2', '5', '2', 'F'] = high :: low :: rest := by
  have hencode : encode "%2F" = "%252F" := by decide +kernel
  obtain ⟨-, -, hdigits, -, -, -, hdecode, hinjective, -⟩ := encode_invertible "%2F"
  rw [hencode] at hdigits hdecode hinjective
  refine ⟨hencode, hdecode, ?_, hdigits [] ['2', '5', '2', 'F'] rfl⟩
  intro hsame
  exact absurd (hinjective "/" hsame) (by decide)

end VisualNovel.Percent
