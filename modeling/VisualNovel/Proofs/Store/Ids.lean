import VisualNovel.Proofs.Files.Path
import VisualNovel.Proofs.Json.Numerals
import VisualNovel.Proofs.Json.Strings
import VisualNovel.Store.Collections

/-!
# Ids of documents

The id of a script line is its number with zeros in front of the digits.  A sign stays in front
of the zeros, so the id is a key, and the number can be read off it (`number_ofOrder`): lines
with different numbers have different ids, however many digits the numbers have.

The id of a save is its code, which is a key too (`isKey_nextCode`).
-/

namespace VisualNovel

namespace Key

theorem isKey_iff {text : String} :
    isKey text = true ↔ text.toList ≠ [] ∧ ∀ c ∈ text.toList, allows c = true := by
  rw [isKey, Bool.and_eq_true, Bool.not_eq_true', List.all_eq_true, String.isEmpty_eq_false_iff,
    ne_eq, ne_eq, String.toList_eq_nil_iff]

theorem allows_of_isDigit {c : Char} (hdigit : c.isDigit = true) : allows c = true := by
  rw [allows, Char.isAlphanum, hdigit, Bool.or_true]
  rfl

theorem isEncodable_of_isKey {key : String} (hkey : isKey key = true) :
    Text.isEncodable key = true :=
  Text.isEncodable_of_ascii fun _ hmem => lt_of_allows (allows_of_mem hkey hmem)

end Key

namespace DocumentId

variable {width : Nat} {order other : Int}

/-! ## Zeros in front -/

theorem length_zeroFilled (width : Nat) (text : List Char) :
    (zeroFilled width text).length = max width text.length := by
  unfold zeroFilled
  split <;> simp only [List.length_cons, List.length_append, List.length_replicate] <;> omega

theorem zeroFilled_of_digit {c : Char} (hdigit : c.isDigit = true) (rest : List Char) :
    zeroFilled width (c :: rest) =
      List.replicate (width - (c :: rest).length) '0' ++ c :: rest := by
  unfold zeroFilled
  split
  · rename_i heq
    cases heq
    cases hdigit
  · rename_i heq
    cases heq
    cases hdigit
  · rfl

/-- The zeros come between the sign and the digits. -/
theorem zeroFilled_ofInt (width : Nat) (order : Int) :
    zeroFilled width (Numeral.ofInt order) = (if order < 0 then ['-'] else []) ++
      (List.replicate (width - (Numeral.ofInt order).length) '0' ++
        Nat.toDigits 10 order.natAbs) := by
  by_cases hsign : order < 0
  · rw [Numeral.ofInt, if_pos hsign]
    rfl
  · rw [Numeral.ofInt, if_neg hsign, List.nil_append, List.nil_append]
    obtain ⟨first, others, hdigits, hdigit⟩ := Numeral.toDigits_eq_cons order.natAbs
    rw [hdigits]
    exact zeroFilled_of_digit hdigit others

/-! ## The number of a line -/

/-- The number that an id tells. -/
def number : List Char → Int
  | '-' :: digits => -(Numeral.value digits : Int)
  | digits => Numeral.value digits

theorem number_of_digits {digits : List Char} (hdigits : ∀ c ∈ digits, c.isDigit = true) :
    number digits = Numeral.value digits := by
  unfold number
  split
  · rename_i rest
    have hminus : '-'.isDigit = true := hdigits '-' (List.mem_cons_self ..)
    cases hminus
  · rfl

theorem isDigit_of_mem_filled {count size : Nat} {c : Char}
    (hmem : c ∈ List.replicate count '0' ++ Nat.toDigits 10 size) : c.isDigit = true := by
  rcases List.mem_append.mp hmem with hzero | hdigit
  · rw [List.eq_of_mem_replicate hzero]
    rfl
  · exact Numeral.isDigit_of_mem_toDigits hdigit

theorem value_replicate_append (count size : Nat) :
    Numeral.value (List.replicate count '0' ++ Nat.toDigits 10 size) = size := by
  rw [Numeral.value, Nat.ofDigitChars_append, Nat.ofDigitChars_replicate_zero, Nat.mul_zero]
  exact Nat.ofDigitChars_ten_toDigits

theorem toList_ofOrder (order : Int) :
    (ofOrder (.int order)).toList = zeroFilled 5 (Numeral.ofInt order) := by
  show (String.ofList (zeroFilled 5 (String.ofList (Numeral.ofInt order)).toList)).toList = _
  rw [String.toList_ofList, String.toList_ofList]

theorem number_ofOrder (order : Int) : number (ofOrder (.int order)).toList = order := by
  rw [toList_ofOrder, zeroFilled_ofInt]
  by_cases hsign : order < 0
  · rw [if_pos hsign]
    show -(Numeral.value (List.replicate _ '0' ++ Nat.toDigits 10 order.natAbs) : Int) = order
    rw [value_replicate_append]
    omega
  · rw [if_neg hsign, List.nil_append, number_of_digits ?_, value_replicate_append]
    · omega
    · exact fun c hmem => isDigit_of_mem_filled hmem

theorem ofOrder_injective (heq : ofOrder (.int order) = ofOrder (.int other)) : order = other := by
  rw [← number_ofOrder order, heq, number_ofOrder]

theorem length_ofOrder (order : Int) :
    (ofOrder (.int order)).length = max 5 (Numeral.ofInt order).length := by
  rw [← String.length_toList, toList_ofOrder, length_zeroFilled]

theorem isKey_ofOrder (order : Int) : Key.isKey (ofOrder (.int order)) = true := by
  rw [Key.isKey_iff]
  constructor
  · intro hnil
    have hlength := length_ofOrder order
    rw [← String.length_toList, hnil, List.length_nil] at hlength
    omega
  · intro c hmem
    rw [toList_ofOrder, zeroFilled_ofInt, List.mem_append] at hmem
    rcases hmem with hsign | hfilled
    · split_ifs at hsign
      · rw [List.mem_singleton.mp hsign]
        rfl
      · cases hsign
    · exact Key.allows_of_isDigit (isDigit_of_mem_filled hfilled)

/-! ## Lines and character records -/

variable {fields : List (String × Json)}

theorem ofLine_of_order (horder : OrderedMap.at? "order" fields = some (.int order)) :
    ofLine (.obj fields) = .ok (ofOrder (.int order)) := by
  rw [ofLine, horder]
  rfl

theorem ofCharacter_of_ids {character expression : String}
    (hcharacter : OrderedMap.at? "characterId" fields = some (.str character))
    (hexpression : OrderedMap.at? "expressionId" fields = some (.str expression)) :
    ofCharacter (.obj fields) = .ok (character ++ "_" ++ expression) := by
  rw [ofCharacter, hcharacter]
  simp only [hexpression]
  rfl

end DocumentId

/-! ## Codes of saves -/

namespace SaveCode

theorem length_letters (size : Nat) (draws : List Nat) : (letters size draws).1.length = size := by
  induction size generalizing draws with
  | zero => rfl
  | succ size ih => exact congrArg Nat.succ (ih (draw draws).2)

theorem letter_mem_alphabet (draw : Nat) : letter draw ∈ alphabet := by
  have hlt : draw % alphabet.length < alphabet.length := Nat.mod_lt _ (by decide)
  rw [letter, List.getD_eq_getElem?_getD, List.getElem?_eq_getElem hlt, Option.getD_some]
  exact List.getElem_mem hlt

theorem mem_alphabet_of_mem_letters {size : Nat} {draws : List Nat} {c : Char}
    (hmem : c ∈ (letters size draws).1) : c ∈ alphabet := by
  induction size generalizing draws with
  | zero => cases hmem
  | succ size ih =>
      rcases List.mem_cons.mp hmem with rfl | hmem
      · exact letter_mem_alphabet _
      · exact ih hmem

theorem allows_of_mem_alphabet {c : Char} (hmem : c ∈ alphabet) : Key.allows c = true := by
  have halphabet : alphabet.all Key.allows = true := by decide
  exact List.all_eq_true.mp halphabet c hmem

end SaveCode

namespace Store

/-- The code of the next save. -/
def nextCode (store : Store) : String := (SaveCode.generate SaveCode.length store.draws).1

/-- The store with the draws for the next code used up. -/
def drawn (store : Store) : Store :=
  { store with draws := (SaveCode.generate SaveCode.length store.draws).2 }

/-- The data of a save with the time at which it is made. -/
def stamped (store : Store) (fields : OrderedMap String Json) : Json :=
  .obj (OrderedMap.put "createdAt" (.str store.clock.text) fields)

theorem isEncodable_moment (moment : Moment) : Text.isEncodable moment.text = true := by
  have hdigits : ∀ width value, Text.isEncodable (Moment.digits width value) = true := by
    intro width value
    refine Text.isEncodable_of_ascii fun c hmem => Key.lt_of_allows (Key.allows_of_isDigit ?_)
    rw [Moment.digits, String.toList_ofList] at hmem
    exact DocumentId.isDigit_of_mem_filled hmem
  have hfraction : Text.isEncodable (if moment.microsecond = 0 then ""
      else "." ++ Moment.digits 6 moment.microsecond) = true := by
    split_ifs
    · rfl
    · rw [Text.isEncodable_append, hdigits]
      rfl
  simp only [Moment.text, Text.isEncodable_append, hdigits, hfraction, Bool.and_true,
    Bool.true_and]
  decide

theorem toList_nextCode (store : Store) :
    store.nextCode.toList = (SaveCode.letters SaveCode.length store.draws).1 :=
  String.toList_ofList

theorem length_nextCode (store : Store) : store.nextCode.length = SaveCode.length := by
  rw [← String.length_toList, toList_nextCode, SaveCode.length_letters]

theorem isKey_nextCode (store : Store) : Key.isKey store.nextCode = true := by
  rw [Key.isKey_iff, toList_nextCode]
  constructor
  · intro hnil
    have hlength := SaveCode.length_letters SaveCode.length store.draws
    rw [hnil] at hlength
    cases hlength
  · intro c hmem
    exact SaveCode.allows_of_mem_alphabet (SaveCode.mem_alphabet_of_mem_letters hmem)

end Store

end VisualNovel
