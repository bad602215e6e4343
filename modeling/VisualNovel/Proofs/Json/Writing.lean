import VisualNovel.Proofs.Json.Bytes

/-!
# What is written as a request

The writer of requests goes through a value, and what it writes is encoded as a whole.  There are
three ways for this to fail, and none of them is taken exactly if there is room for the value and
it can be sent (`writeFault?_eq_none_iff`): no character of the text has to be escaped then.
-/

namespace VisualNovel.Json

/-! ## Characters that can be encoded -/

/-- Does no character stand for a unit? -/
def encodes (chars : List Char) : Bool := chars.all fun c => (Text.unit? c).isNone

theorem encodes_ofList (chars : List Char) :
    Text.isEncodable (String.ofList chars) = encodes chars := by
  rw [Text.isEncodable, String.toList_ofList, encodes]

@[simp] theorem encodes_nil : encodes [] = true := rfl

@[simp] theorem encodes_cons (c : Char) (rest : List Char) :
    encodes (c :: rest) = ((Text.unit? c).isNone && encodes rest) := rfl

@[simp] theorem encodes_append (before rest : List Char) :
    encodes (before ++ rest) = (encodes before && encodes rest) :=
  List.all_append

theorem encodes_of_ascii {chars : List Char} (hascii : ∀ c ∈ chars, c.toNat < 0x80) :
    encodes chars = true :=
  List.all_eq_true.mpr fun c hmem =>
    Option.isNone_iff_eq_none.mpr (Text.unit?_of_ascii (hascii c hmem))

theorem encodes_numberText (number : Number) : encodes (numberText number) = true := by
  refine encodes_of_ascii fun c hmem => ?_
  have hvisible := isVisible_of_mem_numberText hmem
  rw [isVisible, Bool.and_eq_true, decide_eq_true_eq, decide_eq_true_eq] at hvisible
  omega

/-! ## Strings -/

/-- A character inside a string is encoded exactly if it stands for no unit: units are not
escaped, and what is escaped is no unit. -/
theorem encodes_stringChar (c : Char) :
    encodes (stringChar .unencoded c) = (Text.unit? c).isNone := by
  rcases Nat.lt_or_ge c.toNat 0x80 with hascii | hlarge
  · rw [Text.unit?_of_ascii hascii, Option.isNone_none]
    exact Text.of_ascii (fun c => encodes (stringChar .unencoded c) = true) (by decide) hascii
  · have hplain : stringChar .unencoded c = [c] := by
      have hne : ∀ letter : Char, letter.toNat < 0x80 → c ≠ letter := by
        rintro _ hletter rfl
        omega
      have hescape : ¬ (c.toNat < 0x20 ∨ Style.unencoded.ascii = true ∧ 0x7f ≤ c.toNat ∨
          Style.unencoded.units = true ∧ (Text.unit? c).isSome = true) := by
        simp only [Style.unencoded, Bool.false_eq_true, false_and, or_false]
        omega
      rw [stringChar, if_neg (not_or.mpr ⟨hne _ (by decide), hne _ (by decide)⟩),
        if_neg (hne _ (by decide)), if_neg (hne _ (by decide)), if_neg (hne _ (by decide)),
        if_neg (hne _ (by decide)), if_neg (hne _ (by decide)), if_neg hescape]
    rw [hplain, encodes_cons, encodes_nil, Bool.and_true]

theorem encodes_stringText (text : String) :
    encodes (stringText .unencoded text) = Text.isEncodable text := by
  have hchars : ∀ chars : List Char, encodes (chars.flatMap (stringChar .unencoded)) =
      encodes chars := by
    intro chars
    induction chars with
    | nil => rfl
    | cons c rest ih => rw [List.flatMap_cons, encodes_append, encodes_stringChar, ih, encodes_cons]
  have hquote : encodes ['"'] = true := by decide
  rw [stringText, encodes_cons, encodes_append, hchars, hquote, Bool.and_true]
  rfl

/-! ## Values -/

@[simp] theorem lineBreak_unencoded (level : Nat) : lineBreak .unencoded level = [] := rfl

@[simp] theorem keySeparator_unencoded : keySeparator .unencoded = [':'] := rfl

theorem encodes_itemsAfter (style : Style) (level : Nat) (items : List Json) :
    encodes (itemsAfter style level items) = encodes (renderItems style level items) := by
  cases items <;> rfl

theorem encodes_fieldsAfter (style : Style) (level : Nat) (fields : List (String × Json)) :
    encodes (fieldsAfter style level fields) = encodes (renderFields style level fields) := by
  cases fields <;> rfl

mutual

/-- A value has a text, and this can be encoded, exactly if the value is not too deep and can be
sent. -/
theorem textFault?_eq_none_and_encodes_iff : ∀ (depth level : Nat) (value : Json),
    textFault? depth value = none ∧ encodes (render .unencoded level value) = true ↔
      nesting value ≤ depth ∧ isSendable value = true
  | _, _, .null | _, _, .bool true | _, _, .bool false => by
      simp only [textFault?, nesting, isSendable, Nat.zero_le, render, true_and]
      decide
  | _, _, .num (.whole _) => by
      simp only [textFault?, nesting, isSendable, Nat.zero_le, render, encodes_numberText]
  | _, _, .num (.real _) => by
      simp only [textFault?, nesting, isSendable, Nat.zero_le, render, encodes_numberText,
        true_and, and_true, ite_eq_left_iff, reduceCtorEq, imp_false, not_not]
  | _, _, .str _ => by
      simp only [textFault?, nesting, isSendable, Nat.zero_le, render, encodes_stringText]
  | 0, _, .arr _ | 0, _, .obj _ => by
      simp only [textFault?, nesting, reduceCtorEq, false_and, Nat.le_zero, Nat.add_one_ne_zero]
  | depth + 1, _, .arr [] | depth + 1, _, .obj [] => by
      simp [textFault?, itemsFault?, fieldsFault?, nesting, itemsNesting, fieldsNesting,
        isSendable, itemsSendable, fieldsSendable, render]
      decide
  | depth + 1, level, .arr (item :: items) => by
      have hitems := itemsFault?_eq_none_and_encodes_iff depth (level + 1) (item :: items)
      have hopen : Text.unit? '[' = none := Text.unit?_of_ascii (by decide)
      have hclose : Text.unit? ']' = none := Text.unit?_of_ascii (by decide)
      simpa [textFault?, nesting, isSendable, render, hopen, hclose] using hitems
  | depth + 1, level, .obj ((key, value) :: fields) => by
      have hfields := fieldsFault?_eq_none_and_encodes_iff depth (level + 1)
        ((key, value) :: fields)
      have hopen : Text.unit? '\x7b' = none := Text.unit?_of_ascii (by decide)
      have hclose : Text.unit? '\x7d' = none := Text.unit?_of_ascii (by decide)
      simpa [textFault?, nesting, isSendable, render, hopen, hclose] using hfields

theorem itemsFault?_eq_none_and_encodes_iff : ∀ (depth level : Nat) (items : List Json),
    itemsFault? depth items = none ∧ encodes (renderItems .unencoded level items) = true ↔
      itemsNesting items ≤ depth ∧ itemsSendable items = true
  | _, _, [] => by simp [itemsFault?, renderItems, itemsNesting, itemsSendable]
  | depth, level, item :: items => by
      have hitem := textFault?_eq_none_and_encodes_iff depth level item
      have hitems := itemsFault?_eq_none_and_encodes_iff depth level items
      rw [itemsFault?, Option.or_eq_none_iff, renderItems_cons, lineBreak_unencoded,
        List.nil_append, encodes_append, Bool.and_eq_true, encodes_itemsAfter, and_and_and_comm,
        hitem, hitems, and_and_and_comm, itemsNesting, Nat.max_le, itemsSendable,
        Bool.and_eq_true]

theorem fieldsFault?_eq_none_and_encodes_iff : ∀ (depth level : Nat)
    (fields : List (String × Json)),
    fieldsFault? depth fields = none ∧ encodes (renderFields .unencoded level fields) = true ↔
      fieldsNesting fields ≤ depth ∧ fieldsSendable fields = true
  | _, _, [] => by simp [fieldsFault?, renderFields, fieldsNesting, fieldsSendable]
  | depth, level, (key, value) :: fields => by
      have hvalue := textFault?_eq_none_and_encodes_iff depth level value
      have hfields := fieldsFault?_eq_none_and_encodes_iff depth level fields
      have hcolon : encodes [':'] = true := by decide
      rw [fieldsFault?, Option.or_eq_none_iff, renderFields_cons, lineBreak_unencoded,
        List.nil_append, encodes_append, encodes_append, encodes_append, encodes_stringText,
        keySeparator_unencoded, hcolon, Bool.true_and, encodes_fieldsAfter, fieldsNesting,
        Nat.max_le, fieldsSendable]
      simp only [Bool.and_eq_true]
      tauto

end

/-- A value is written as a request exactly if there is room for it, and it can be sent. -/
theorem writeFault?_eq_none_iff [Room] {value : Json} :
    writeFault? value = none ↔
      nesting value ≤ Room.depth .request ∧ isSendable value = true := by
  rw [writeFault?, Option.or_eq_none_iff, Option.map_eq_none_iff, Text.unencodable?_eq_none_iff,
    toText, encodes_ofList, textFault?_eq_none_and_encodes_iff]

theorem writeFault?_singleton_eq_none_iff [Room] {name : String} {value : Json}
    (hname : Text.isEncodable name = true) :
    writeFault? (.obj [(name, value)]) = none ↔
      nesting value < Room.depth .request ∧ isSendable value = true := by
  rw [writeFault?_eq_none_iff, nesting_singleton, Nat.succ_le_iff, isSendable, fieldsSendable,
    fieldsSendable, hname, Bool.true_and, Bool.and_true]

end VisualNovel.Json
