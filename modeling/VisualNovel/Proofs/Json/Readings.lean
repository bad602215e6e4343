import VisualNovel.Proofs.Json.Depth
import Mathlib.Data.List.TakeWhile

/-!
# What is read at all

Whatever the text is, the value that a reader takes off it is tidy: a number is in the range of
numbers, and of the fields with one name only one is left.  It is not deeper than the reader goes
either (`readable_of_readText`).
-/

namespace VisualNovel

namespace Numeral

theorem isDigit_of_spanDigits {text digits rest : List Char}
    (hspan : spanDigits text = (digits, rest)) : ∀ c ∈ digits, c.isDigit = true := by
  rw [spanDigits, List.span_eq_takeWhile_dropWhile] at hspan
  cases hspan
  intro c hmem
  exact List.mem_takeWhile_imp hmem

theorem wholeDigits?_spec {text digits rest : List Char}
    (hwhole : Json.wholeDigits? text = some (digits, rest)) :
    digits ≠ [] ∧ ∀ c ∈ digits, c.isDigit = true := by
  unfold Json.wholeDigits? at hwhole
  split at hwhole
  · cases hwhole
    exact ⟨List.cons_ne_nil _ _, List.forall_mem_singleton.mpr rfl⟩
  · split at hwhole
    · cases hwhole
    · rename_i hsome
      have hspan := Option.some.inj hwhole
      refine ⟨?_, isDigit_of_spanDigits hspan⟩
      rintro rfl
      exact hsome _ hspan

theorem value_lt {digits : List Char} (hdigits : ∀ c ∈ digits, c.isDigit = true) :
    value digits < 10 ^ digits.length := by
  induction digits using List.reverseRecOn with
  | nil => exact Nat.one_pos
  | append_singleton digits c ih =>
      have hlt := ih fun other hmem => hdigits other (List.mem_append_left _ hmem)
      have hdigit : c.isDigit = true := hdigits c (by simp)
      have hnine : c.toNat - '0'.toNat ≤ 9 := by
        rw [Char.isDigit, Bool.and_eq_true, decide_eq_true_eq, decide_eq_true_eq] at hdigit
        have hle : c.toNat ≤ 57 := hdigit.2
        have hzero : '0'.toNat = 48 := rfl
        omega
      rw [value] at hlt
      rw [value, Nat.ofDigitChars_append, Nat.ofDigitChars_cons, Nat.ofDigitChars_nil,
        List.length_append, List.length_singleton, Nat.pow_succ]
      omega

theorem length_toDigits_value_le {digits : List Char} (hsome : digits ≠ [])
    (hdigits : ∀ c ∈ digits, c.isDigit = true) :
    (Nat.toDigits 10 (value digits)).length ≤ digits.length :=
  (Nat.length_toDigits_le_iff (by decide) (List.length_pos_iff.mpr hsome)).mpr (value_lt hdigits)

end Numeral

namespace Json

/-- Is the value one that a reader can bring that goes this deep? -/
structure Readable (value : Json) (depth : Nat) : Prop where
  tidy : IsTidy value
  shallow : nesting value ≤ depth

theorem readable_arr {items : List Json} {depth : Nat}
    (hitems : ∀ item ∈ items, Readable item depth) : Readable (.arr items) (depth + 1) :=
  ⟨isRegular_arr_iff.mpr fun item hmem => (hitems item hmem).tidy,
    Nat.succ_le_succ (itemsNesting_le_iff.mpr fun item hmem => (hitems item hmem).shallow)⟩

/-- Fields that take the places of others bring nothing new. -/
theorem readable_ofPairs {fields : List (String × Json)} {depth : Nat}
    (hfields : ∀ field ∈ fields, Readable field.2 depth) :
    Readable (.obj (OrderedMap.ofPairs fields)) (depth + 1) :=
  ⟨isRegular_ofPairs (fieldsRegular_iff.mpr fun field hmem =>
      ⟨trivial, (hfields field hmem).tidy⟩),
    Nat.succ_le_succ (fieldsNesting_le_iff.mpr fun field hmem =>
      (hfields field (OrderedMap.mem_of_mem_ofPairs hmem)).shallow)⟩

theorem eq_ok_of_map {α β : Type} {found : Except ReadFault α} {f : α → β} {result : β}
    (hmap : found.map f = .ok result) : ∃ read, found = .ok read ∧ f read = result := by
  cases found with
  | error fault => cases hmap
  | ok read => exact ⟨read, rfl, Except.ok.inj hmap⟩

/-- A number that is read has no more digits than numbers may have, or is a double. -/
theorem isReadable_of_readUnsigned {negative : Bool} {text rest : List Char} {number : Number}
    (hread : readUnsigned negative text = .ok (number, rest)) : number.IsReadable := by
  unfold readUnsigned at hread
  split at hread
  · cases hread
  · rename_i whole afterWhole hwhole
    obtain ⟨hsome, hdigits⟩ := Numeral.wholeDigits?_spec hwhole
    have hle := Numeral.length_toDigits_value_le hsome hdigits
    simp only at hread
    split_ifs at hread with hwhole hlong hnegative
    · cases hread
      rw [Number.IsReadable, Int.natAbs_neg, Int.natAbs_natCast]
      omega
    · cases hread
      rw [Number.IsReadable, Int.natAbs_natCast]
      omega
    · cases hread
      exact Binary64.isProper_ofDecimal _ _ _

variable {depth : Nat}

mutual

/-- A value that is read is tidy and not too deep, whatever the text. -/
theorem readable_of_readValue : ∀ {fuel depth : Nat} {text rest : List Char} {value : Json},
    readValue fuel depth text = .ok (value, rest) → Readable value depth
  | 0, _, _, _, _, hread => by
      rw [readValue] at hread
      cases hread
  | fuel + 1, depth, text, rest, value, hread => by
      unfold readValue at hread
      split at hread
      case h_1 =>
        obtain ⟨_, -, heq⟩ := eq_ok_of_map hread
        cases heq
        exact ⟨trivial, Nat.zero_le _⟩
      case h_2 =>
        split_ifs at hread with hdepth
        obtain ⟨depth, rfl⟩ := Nat.exists_eq_succ_of_ne_zero hdepth
        split at hread
        · cases hread
          exact readable_arr (List.forall_mem_nil _)
        · obtain ⟨⟨items, left⟩, hitems, heq⟩ := eq_ok_of_map hread
          cases heq
          exact readable_arr (readable_of_readItems hitems)
      case h_3 =>
        split_ifs at hread with hdepth
        obtain ⟨depth, rfl⟩ := Nat.exists_eq_succ_of_ne_zero hdepth
        split at hread
        · cases hread
          exact readable_ofPairs (List.forall_mem_nil _)
        · obtain ⟨⟨fields, left⟩, hfields, heq⟩ := eq_ok_of_map hread
          cases heq
          exact readable_ofPairs (readable_of_readFields hfields)
      -- words
      case h_4 | h_5 | h_6 | h_7 | h_8 | h_9 =>
        cases hread
        exact ⟨trivial, Nat.zero_le _⟩
      case h_10 | h_11 =>
        obtain ⟨_, hnumber, heq⟩ := eq_ok_of_map hread
        cases heq
        exact ⟨isReadable_of_readUnsigned hnumber, Nat.zero_le _⟩

theorem readable_of_readItems : ∀ {fuel depth : Nat} {text rest : List Char} {items : List Json},
    readItems fuel depth text = .ok (items, rest) → ∀ item ∈ items, Readable item depth
  | 0, _, _, _, _, hread => by
      rw [readItems] at hread
      cases hread
  | fuel + 1, depth, text, rest, items, hread => by
      rw [readItems] at hread
      cases hitem : readValue fuel depth text with
      | error fault =>
          rw [hitem] at hread
          cases hread
      | ok read =>
          obtain ⟨item, left⟩ := read
          have hfirst := readable_of_readValue hitem
          simp only [hitem, bind, Except.bind] at hread
          split at hread
          · cases hread
            exact List.forall_mem_singleton.mpr hfirst
          · split at hread
            · cases hread
            · rename_i _ _ _ hitems
              cases hread
              exact List.forall_mem_cons.mpr ⟨hfirst, readable_of_readItems hitems⟩
          · cases hread

theorem readable_of_readFields : ∀ {fuel depth : Nat} {text rest : List Char}
    {fields : List (String × Json)}, readFields fuel depth text = .ok (fields, rest) →
      ∀ field ∈ fields, Readable field.2 depth
  | 0, _, _, _, _, hread => by
      rw [readFields] at hread
      cases hread
  | fuel + 1, depth, text, rest, fields, hread => by
      unfold readFields at hread
      split at hread
      case h_2 => cases hread
      rename_i afterQuote
      cases hkey : readString afterQuote with
      | error fault =>
          rw [hkey] at hread
          cases hread
      | ok read =>
          obtain ⟨key, afterKey⟩ := read
          simp only [hkey, bind, Except.bind] at hread
          split at hread
          case h_2 => cases hread
          rename_i afterColon _
          cases hvalue : readValue fuel depth (skipBlanks afterColon) with
          | error fault =>
              rw [hvalue] at hread
              cases hread
          | ok read =>
              obtain ⟨value, left⟩ := read
              have hfirst := readable_of_readValue hvalue
              simp only [hvalue] at hread
              split at hread
              · cases hread
                exact List.forall_mem_singleton.mpr hfirst
              · split at hread
                · cases hread
                · rename_i _ _ _ hfields
                  cases hread
                  exact List.forall_mem_cons.mpr ⟨hfirst, readable_of_readFields hfields⟩
              · cases hread

end

theorem readable_of_readText {text : List Char} {value : Json}
    (hread : readText depth text = .ok value) : Readable value depth := by
  rw [readText] at hread
  cases hvalue : readValue (2 * text.length + 2) depth (skipBlanks text) with
  | error fault =>
      rw [hvalue] at hread
      cases hread
  | ok read =>
      obtain ⟨found, rest⟩ := read
      simp only [hvalue, bind, Except.bind] at hread
      split at hread
      · cases hread
        exact readable_of_readValue hvalue
      · cases hread

end Json

end VisualNovel
