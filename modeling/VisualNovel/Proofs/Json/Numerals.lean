import VisualNovel.Json.Reader
import Mathlib.Data.List.TakeDrop

/-!
# Numerals are read back

The numeral of a whole number is a minus sign, if the number is below zero, and its digits,
the first of which is no zero unless it is the only one.  The reader takes the longest run of
digits, so a numeral is read back whenever nothing follows that could belong to it
(`Numeral.Ends`).
-/

namespace VisualNovel

namespace Numeral

/-- Is there nothing at the start of the text that could belong to a numeral before it? -/
def Ends (rest : List Char) : Prop :=
  ∀ c ∈ rest.head?, c.isDigit = false ∧ c ≠ '.' ∧ c ≠ 'e' ∧ c ≠ 'E'

@[simp] theorem ends_nil : Ends [] := by
  intro c hmem
  cases hmem

/-- Is there no digit at the start of the text? -/
def Stops (rest : List Char) : Prop := ∀ c ∈ rest.head?, c.isDigit = false

theorem Ends.stops {rest : List Char} (hends : Ends rest) : Stops rest :=
  fun c hmem => (hends c hmem).1

theorem stops_cons {c : Char} (hdigit : c.isDigit = false) (rest : List Char) :
    Stops (c :: rest) := by
  intro first hfirst
  cases hfirst
  exact hdigit

theorem spanDigits_append {digits rest : List Char} (hdigits : ∀ c ∈ digits, c.isDigit = true)
    (hstops : Stops rest) : spanDigits (digits ++ rest) = (digits, rest) := by
  rw [spanDigits, List.span_eq_takeWhile_dropWhile, List.takeWhile_append_of_pos hdigits,
    List.dropWhile_append_of_pos hdigits]
  cases rest with
  | nil => simp
  | cons c rest =>
      have hdigit : c.isDigit = false := hstops c rfl
      simp [hdigit]

theorem fraction?_of_ends {rest : List Char} (hends : Ends rest) : fraction? rest = none := by
  cases rest with
  | nil => rfl
  | cons c rest =>
      have hpoint : c ≠ '.' := (hends c rfl).2.1
      simp [fraction?, hpoint]

theorem exponent?_of_ends {rest : List Char} (hends : Ends rest) : exponent? rest = none := by
  cases rest with
  | nil => rfl
  | cons c rest =>
      obtain ⟨-, -, hsmall, hlarge⟩ := hends c rfl
      simp [exponent?, hsmall, hlarge]

/-! ## Digits -/

theorem isDigit_of_mem_toDigits {n : Nat} {c : Char} (hmem : c ∈ Nat.toDigits 10 n) :
    c.isDigit = true :=
  Nat.isDigit_of_mem_toDigits (by decide) (by decide) hmem

theorem toDigits_eq_cons (n : Nat) :
    ∃ first others, Nat.toDigits 10 n = first :: others ∧ first.isDigit = true := by
  cases hdigits : Nat.toDigits 10 n with
  | nil => exact absurd hdigits Nat.toDigits_ne_nil
  | cons first others =>
      refine ⟨first, others, rfl, isDigit_of_mem_toDigits (n := n) ?_⟩
      rw [hdigits]
      exact List.mem_cons_self ..

theorem head?_toDigits_ne {n : Nat} (hpos : 0 < n) : (Nat.toDigits 10 n).head? ≠ some '0' := by
  induction n using Nat.strongRecOn with
  | ind n ih =>
      by_cases hlt : n < 10
      · rw [Nat.toDigits_of_lt_base hlt]
        have hdigits : ∀ digit < 10, 0 < digit → [digit.digitChar].head? ≠ some '0' := by decide
        exact hdigits n hlt hpos
      · have hle : 10 ≤ n := by omega
        have hhead := ih (n / 10) (by omega) (by omega)
        obtain ⟨first, others, hdigits, -⟩ := toDigits_eq_cons (n / 10)
        rw [Nat.toDigits_of_base_le (by decide) hle, hdigits]
        rw [hdigits] at hhead
        exact hhead

/-- Are these the digits of a whole number, without needless zeros in front? -/
structure IsWhole (digits : List Char) : Prop where
  nonempty : digits ≠ []
  isDigit : ∀ c ∈ digits, c.isDigit = true
  eq_zero : digits.head? = some '0' → digits = ['0']

theorem isWhole_zero : IsWhole ['0'] :=
  ⟨List.cons_ne_nil _ _, List.forall_mem_singleton.mpr rfl, fun _ => rfl⟩

theorem isWhole_toDigits (n : Nat) : IsWhole (Nat.toDigits 10 n) := by
  refine ⟨Nat.toDigits_ne_nil, fun c => isDigit_of_mem_toDigits (n := n), ?_⟩
  intro hhead
  rcases Nat.eq_zero_or_pos n with rfl | hpos
  · exact Nat.toDigits_zero 10
  · exact absurd hhead (head?_toDigits_ne hpos)

/-- The digits of a whole number are taken up to where they stop. -/
theorem wholeDigits?_append {digits rest : List Char} (hwhole : IsWhole digits)
    (hstops : Stops rest) : Json.wholeDigits? (digits ++ rest) = some (digits, rest) := by
  have hspan := spanDigits_append hwhole.isDigit hstops
  obtain ⟨first, others, rfl⟩ := List.exists_cons_of_ne_nil hwhole.nonempty
  by_cases hzero : first = '0'
  · subst hzero
    rw [hwhole.eq_zero rfl]
    rfl
  · rw [List.cons_append] at hspan ⊢
    simp [Json.wholeDigits?, hzero, hspan]

end Numeral

namespace Json

theorem readUnsigned_toDigits (negative : Bool) {n : Nat} {rest : List Char}
    (hshort : (Nat.toDigits 10 n).length ≤ Numeral.digitLimit) (hends : Numeral.Ends rest) :
    readUnsigned negative (Nat.toDigits 10 n ++ rest) =
      .ok (.whole (if negative then -(n : Int) else n), rest) := by
  have hlimit : ¬ Numeral.digitLimit < (Nat.toDigits 10 n).length := by omega
  simp [readUnsigned, Numeral.wholeDigits?_append (Numeral.isWhole_toDigits n) hends.stops,
    Numeral.fraction?_of_ends hends, Numeral.exponent?_of_ends hends, hlimit, Numeral.value]

theorem readValue_digit (fuel depth : Nat) {c : Char} (hdigit : c.isDigit = true)
    (rest : List Char) :
    readValue (fuel + 1) depth (c :: rest) =
      (readUnsigned false (c :: rest)).map fun (value, rest) => (.num value, rest) := by
  -- no other branch of the reader begins with a digit
  rw [readValue]
  all_goals
    intros
    rename_i heq
    cases heq
    revert hdigit
    decide

theorem readValue_signed (fuel depth : Nat) {negative : Bool} {first : Char}
    {others rest : List Char} {number : Number} (hdigit : first.isDigit = true)
    (hread : readUnsigned negative (first :: others) = .ok (number, rest)) :
    readValue (fuel + 1) depth ((if negative then ['-'] else []) ++ first :: others) =
      .ok (.num number, rest) := by
  cases negative with
  | false =>
      rw [if_neg Bool.false_ne_true, List.nil_append, readValue_digit fuel depth hdigit, hread]
      rfl
  | true =>
      have hword : first ≠ 'I' := by
        rintro rfl
        revert hdigit
        decide
      simp [readValue, hword, hread, Except.map]

theorem readValue_ofInt (fuel depth : Nat) {value : Int} {rest : List Char}
    (hshort : (Nat.toDigits 10 value.natAbs).length ≤ Numeral.digitLimit)
    (hends : Numeral.Ends rest) :
    readValue (fuel + 1) depth (Numeral.ofInt value ++ rest) = .ok (.int value, rest) := by
  have hvalue : (if value < 0 then -(value.natAbs : Int) else value.natAbs) = value := by
    split_ifs <;> omega
  have hread := readUnsigned_toDigits (decide (value < 0)) hshort hends
  obtain ⟨first, others, hdigits, hdigit⟩ := Numeral.toDigits_eq_cons value.natAbs
  rw [hdigits] at hread
  simp only [decide_eq_true_eq, hvalue] at hread
  have hsigned := readValue_signed fuel depth hdigit hread
  simp only [decide_eq_true_eq] at hsigned
  rw [Numeral.ofInt, hdigits, List.append_assoc]
  exact hsigned

end Json

end VisualNovel
