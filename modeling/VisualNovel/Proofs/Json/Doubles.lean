import VisualNovel.Json.Printer
import VisualNovel.Proofs.Json.Numerals
import VisualNovel.Proofs.Number.Shortest

/-!
# Doubles are read back

The text of a double is laid out from the digits of its shortest decimal, with or without an
exponent.  Either way the reader finds a point or an exponent, so it reads a double, and the digits
it finds have the value of the decimal.  They need not be the digits of the decimal: a whole number
has `.0` at its end, and zeros before that if its last digit stands for more than one.

By `Binary64.ofDecimal_of_value_eq` the double that is read is the one that was written.
-/

namespace VisualNovel

open Binary64 (Decimal Layout)

/-! ## The value of digits -/

namespace Numeral

theorem value_toDigits (n : Nat) : value (Nat.toDigits 10 n) = n := Nat.ofDigitChars_ten_toDigits

theorem value_zeros_append (zeros : Nat) (digits : List Char) :
    value (List.replicate zeros '0' ++ digits) = value digits := by
  rw [value, Nat.ofDigitChars_append, Nat.ofDigitChars_replicate_zero, Nat.mul_zero, value]

theorem value_append_zeros (digits : List Char) (zeros : Nat) :
    value (digits ++ List.replicate zeros '0') = 10 ^ zeros * value digits := by
  rw [value, Nat.ofDigitChars_append, Nat.ofDigitChars_replicate_zero, value]

theorem isDigit_of_mem_zeros {zeros : Nat} {c : Char} (hmem : c ∈ List.replicate zeros '0') :
    c.isDigit = true := by
  rw [List.eq_of_mem_replicate hmem]
  rfl

/-! ## Parts of a numeral -/

variable {digits rest : List Char}

theorem IsWhole.take (hwhole : IsWhole digits) {count : Nat}
    (hsome : 0 < count) (hless : count < digits.length) : IsWhole (digits.take count) := by
  refine ⟨?_, fun c hmem => hwhole.isDigit c (List.mem_of_mem_take hmem), ?_⟩
  · rw [ne_eq, List.take_eq_nil_iff]
    exact not_or.mpr ⟨hsome.ne', hwhole.nonempty⟩
  · intro hhead
    rw [List.head?_take, if_neg hsome.ne'] at hhead
    rw [hwhole.eq_zero hhead, List.length_singleton] at hless
    omega

/-- Zeros can be put after the digits of a number, unless it is zero. -/
theorem IsWhole.append_zeros (hwhole : IsWhole digits) {zeros : Nat}
    (hzero : digits = ['0'] → zeros = 0) : IsWhole (digits ++ List.replicate zeros '0') := by
  refine ⟨fun hnil => hwhole.nonempty (List.append_eq_nil_iff.mp hnil).1, ?_, ?_⟩
  · intro c hmem
    rcases List.mem_append.mp hmem with hdigit | hfilled
    · exact hwhole.isDigit c hdigit
    · exact isDigit_of_mem_zeros hfilled
  · intro hhead
    rw [List.head?_append_of_ne_nil _ hwhole.nonempty] at hhead
    have hdigits := hwhole.eq_zero hhead
    rw [hdigits, hzero hdigits]
    rfl

theorem fraction?_append (hsome : digits ≠ []) (hdigits : ∀ c ∈ digits, c.isDigit = true)
    (hstops : Stops rest) : fraction? ('.' :: (digits ++ rest)) = some (digits, rest) := by
  rw [fraction?, spanDigits_append hdigits hstops]
  cases digits with
  | nil => exact absurd rfl hsome
  | cons first others => rfl

theorem value_paddedDigits (width n : Nat) : value (Binary64.paddedDigits width n) = n := by
  rw [Binary64.paddedDigits, value_zeros_append, value_toDigits]

theorem isDigit_of_mem_paddedDigits {width n : Nat} {c : Char}
    (hmem : c ∈ Binary64.paddedDigits width n) : c.isDigit = true := by
  rcases List.mem_append.mp hmem with hzero | hdigit
  · exact isDigit_of_mem_zeros hzero
  · exact isDigit_of_mem_toDigits hdigit

theorem exponent?_append (width : Nat) (exponent : Int) (hstops : Stops rest) :
    exponent? ('e' :: (if exponent < 0 then '-' else '+') ::
      (Binary64.paddedDigits width exponent.natAbs ++ rest)) = some (exponent, rest) := by
  have hpadded : ∀ c ∈ Binary64.paddedDigits width exponent.natAbs, c.isDigit = true :=
    fun c => isDigit_of_mem_paddedDigits
  have hspan := spanDigits_append hpadded hstops
  have hvalue := value_paddedDigits width exponent.natAbs
  generalize hdigits : Binary64.paddedDigits width exponent.natAbs = digits at hspan hvalue ⊢
  cases digits with
  | nil => exact absurd (List.append_eq_nil_iff.mp hdigits).2 Nat.toDigits_ne_nil
  | cons first others =>
      rw [List.cons_append] at hspan ⊢
      by_cases hneg : exponent < 0
      · have hsize : (0 : Int) - exponent.natAbs = exponent := by omega
        simp only [exponent?, if_pos hneg, hspan, hvalue]
        rw [if_pos (Or.inl trivial), if_pos trivial, hsize]
      · have hsize : (exponent.natAbs : Int) = exponent := by omega
        simp only [exponent?, if_neg hneg, hspan, hvalue]
        rw [if_pos (Or.inl trivial), if_neg Bool.false_ne_true, hsize]

end Numeral

/-! ## Numerals with a point or an exponent -/

namespace Json

open Numeral

variable {negative : Bool} {whole fraction rest : List Char}

theorem stops_point (rest : List Char) : Stops ('.' :: rest) := stops_cons rfl rest

theorem stops_marker (rest : List Char) : Stops ('e' :: rest) := stops_cons rfl rest

theorem readUnsigned_point (negative : Bool) (hwhole : IsWhole whole) (hsome : fraction ≠ [])
    (hfraction : ∀ c ∈ fraction, c.isDigit = true) (hends : Ends rest) :
    readUnsigned negative (whole ++ '.' :: (fraction ++ rest)) =
      .ok (.real (Numeral.real negative whole fraction 0), rest) := by
  rw [readUnsigned, wholeDigits?_append hwhole (stops_point _)]
  simp only [fraction?_append hsome hfraction hends.stops, exponent?_of_ends hends]
  rfl

theorem readUnsigned_exponent (negative : Bool) (hwhole : IsWhole whole) (width : Nat)
    (exponent : Int) (hends : Ends rest) :
    readUnsigned negative (whole ++ 'e' :: (if exponent < 0 then '-' else '+') ::
      (Binary64.paddedDigits width exponent.natAbs ++ rest)) =
      .ok (.real (Numeral.real negative whole [] exponent), rest) := by
  have hnone : fraction? ('e' :: (if exponent < 0 then '-' else '+') ::
      (Binary64.paddedDigits width exponent.natAbs ++ rest)) = none := rfl
  rw [readUnsigned, wholeDigits?_append hwhole (stops_marker _)]
  simp only [hnone, exponent?_append width exponent hends.stops]
  rfl

theorem readUnsigned_point_exponent (negative : Bool) (hwhole : IsWhole whole)
    (hsome : fraction ≠ []) (hfraction : ∀ c ∈ fraction, c.isDigit = true) (width : Nat)
    (exponent : Int) (hends : Ends rest) :
    readUnsigned negative (whole ++ '.' :: (fraction ++ 'e' ::
      (if exponent < 0 then '-' else '+') ::
        (Binary64.paddedDigits width exponent.natAbs ++ rest))) =
      .ok (.real (Numeral.real negative whole fraction exponent), rest) := by
  rw [readUnsigned, wholeDigits?_append hwhole (stops_point _)]
  simp only [fraction?_append hsome hfraction (stops_marker _),
    exponent?_append width exponent hends.stops]
  rfl

/-! ## The digits of a decimal, laid out -/

/-- Is the text read as a double that is written with digits of this value? -/
def ReadsAs (negative : Bool) (text rest : List Char) (value : ℚ) : Prop :=
  ∃ (digits : Nat) (power : Int), (digits : ℚ) * 10 ^ power = value ∧
    readUnsigned negative (text ++ rest) =
      .ok (.real (Binary64.ofDecimal negative digits power), rest)

variable {decimal : Decimal} {leading : Int}

theorem readsAs_scientific (layout : Layout)
    (hleading : leading = decimal.power + (Nat.toDigits 10 decimal.digits).length - 1)
    (hends : Ends rest) :
    ReadsAs negative (Binary64.scientific layout (Nat.toDigits 10 decimal.digits) leading) rest
      decimal.value := by
  have hvalue := value_toDigits decimal.digits
  have hdigits : ∀ c ∈ Nat.toDigits 10 decimal.digits, c.isDigit = true :=
    fun c => isDigit_of_mem_toDigits
  refine ⟨decimal.digits, decimal.power, rfl, ?_⟩
  cases hlist : Nat.toDigits 10 decimal.digits with
  | nil => exact absurd hlist Nat.toDigits_ne_nil
  | cons first others =>
      rw [hlist] at hleading hvalue hdigits
      have hfirst := hdigits first (List.mem_cons_self ..)
      have hwhole : IsWhole [first] := by
        refine ⟨List.cons_ne_nil _ _, fun c hmem => List.mem_singleton.mp hmem ▸ hfirst, ?_⟩
        intro hzero
        exact congrArg (fun c => [c]) (Option.some.inj hzero)
      -- a single digit is written without a point
      cases others with
      | nil =>
          have hpower : leading - ((([] : List Char).length : Nat) : Int) = decimal.power := by
            rw [hleading, List.length_singleton, List.length_nil]
            omega
          have hread := readUnsigned_exponent negative hwhole layout.exponentWidth
            leading hends
          rw [Numeral.real, List.append_nil, hvalue, hpower] at hread
          exact hread
      | cons second others =>
          have hpower : leading - ((second :: others).length : Nat) = decimal.power := by
            rw [hleading, List.length_cons (a := first)]
            omega
          have hread := readUnsigned_point_exponent negative hwhole
            (List.cons_ne_nil second others) (fun c hmem => hdigits c (List.mem_cons_of_mem _ hmem))
            layout.exponentWidth leading hends
          have hsame : value ([first] ++ second :: others) = decimal.digits := hvalue
          rw [Numeral.real, hsame, hpower] at hread
          simpa [Binary64.scientific] using hread

section

variable {digits : List Char} {zeros wholes : Nat}

theorem readsAs_fraction (hwhole : IsWhole digits) (hends : Ends rest) :
    ReadsAs negative ('0' :: '.' :: (List.replicate zeros '0' ++ digits)) rest
      (value digits * 10 ^ (-(zeros + digits.length : Nat) : Int)) := by
  have hfraction : ∀ c ∈ List.replicate zeros '0' ++ digits, c.isDigit = true := fun c hmem =>
    (List.mem_append.mp hmem).elim isDigit_of_mem_zeros (hwhole.isDigit c)
  have hsome : List.replicate zeros '0' ++ digits ≠ [] :=
    fun hnil => hwhole.nonempty (List.append_eq_nil_iff.mp hnil).2
  have hread := readUnsigned_point negative isWhole_zero hsome hfraction hends
  have hvalue : value (['0'] ++ (List.replicate zeros '0' ++ digits)) = value digits :=
    value_zeros_append (zeros + 1) digits
  rw [Numeral.real, hvalue, List.length_append, List.length_replicate, zero_sub] at hread
  exact ⟨_, _, rfl, by simpa using hread⟩

theorem readsAs_between (hwhole : IsWhole digits) (hlt : wholes + 1 < digits.length)
    (hends : Ends rest) :
    ReadsAs negative (digits.take (wholes + 1) ++ '.' :: digits.drop (wholes + 1)) rest
      (value digits * 10 ^ ((wholes + 1 : Nat) - digits.length : Int)) := by
  have hdrop : digits.drop (wholes + 1) ≠ [] := by
    rw [ne_eq, List.drop_eq_nil_iff, Nat.not_le]
    exact hlt
  have hread := readUnsigned_point negative (hwhole.take (Nat.succ_pos wholes) hlt) hdrop
    (fun c hmem => hwhole.isDigit c (List.mem_of_mem_drop hmem)) hends
  have hpower : 0 - ((digits.drop (wholes + 1)).length : Int) =
      (wholes + 1 : Nat) - digits.length := by
    rw [List.length_drop]
    omega
  rw [Numeral.real, List.take_append_drop, hpower] at hread
  exact ⟨_, _, rfl, by simpa using hread⟩

theorem readsAs_filled (hwhole : IsWhole digits) (hzero : digits = ['0'] → zeros = 0)
    (hends : Ends rest) :
    ReadsAs negative (digits ++ List.replicate zeros '0' ++ ['.', '0']) rest
      (value digits * 10 ^ (zeros : Int)) := by
  have hread := readUnsigned_point negative (hwhole.append_zeros hzero) (List.cons_ne_nil '0' [])
    (List.forall_mem_singleton.mpr rfl) hends
  have hvalue : value (digits ++ List.replicate zeros '0' ++ ['0']) =
      10 ^ (zeros + 1) * value digits := by
    have hmore := value_append_zeros digits (zeros + 1)
    rw [List.replicate_succ', ← List.append_assoc] at hmore
    exact hmore
  rw [Numeral.real, hvalue] at hread
  refine ⟨_, _, ?_, by simpa using hread⟩
  rw [zpow_neg_one, zpow_natCast, pow_succ]
  push_cast
  ring

end

/-- Without an exponent there are zeros before the digits, after them, or neither. -/
theorem readsAs_positional
    (hleading : leading = decimal.power + (Nat.toDigits 10 decimal.digits).length - 1)
    (hzero : decimal.digits = 0 → decimal.power = 0) (hends : Ends rest) :
    ReadsAs negative (Binary64.positional (Nat.toDigits 10 decimal.digits) leading) rest
      decimal.value := by
  have hvalue := value_toDigits decimal.digits
  have hwhole := isWhole_toDigits decimal.digits
  generalize Nat.toDigits 10 decimal.digits = digits at hleading hvalue hwhole ⊢
  rw [Decimal.value, ← hvalue]
  cases leading with
  | negSucc zeros =>
      rw [show decimal.power = -(zeros + digits.length : Nat) by omega]
      exact readsAs_fraction hwhole hends
  | ofNat wholes =>
      rw [Int.ofNat_eq_natCast] at hleading
      rcases Nat.lt_or_ge (wholes + 1) digits.length with hlt | hge
      · have hlength : (digits.take (wholes + 1)).length = wholes + 1 := by
          rw [List.length_take]
          omega
        have hdrop : digits.drop (wholes + 1) ≠ [] := by
          rw [ne_eq, List.drop_eq_nil_iff, Nat.not_le]
          exact hlt
        rw [show decimal.power = (wholes + 1 : Nat) - digits.length by omega]
        simpa [Binary64.positional, hlength, hdrop] using readsAs_between hwhole hlt hends
      · have htake : digits.take (wholes + 1) = digits := List.take_of_length_le hge
        have hdrop : digits.drop (wholes + 1) = [] := List.drop_eq_nil_iff.mpr hge
        have hpower : decimal.power = ((wholes + 1 - digits.length : Nat) : Int) := by omega
        have hnone : digits = ['0'] → wholes + 1 - digits.length = 0 := by
          rintro rfl
          have := hzero hvalue.symm
          omega
        rw [hpower]
        simpa [Binary64.positional, htake, hdrop] using readsAs_filled hwhole hnone hends

/-! ## Doubles -/

theorem positional_eq_cons (n : Nat) (leading : Int) :
    ∃ first others, Binary64.positional (Nat.toDigits 10 n) leading = first :: others ∧
      first.isDigit = true := by
  obtain ⟨first, others, hdigits, hdigit⟩ := toDigits_eq_cons n
  rw [hdigits]
  cases leading with
  | negSucc zeros => exact ⟨'0', _, rfl, rfl⟩
  | ofNat wholes => exact ⟨first, _, rfl, hdigit⟩

theorem scientific_eq_cons (layout : Layout) (n : Nat) (leading : Int) :
    ∃ first others, Binary64.scientific layout (Nat.toDigits 10 n) leading = first :: others ∧
      first.isDigit = true := by
  obtain ⟨first, others, hdigits, hdigit⟩ := toDigits_eq_cons n
  rw [hdigits]
  cases others <;> exact ⟨first, _, rfl, hdigit⟩

variable {significand : Nat} {exponent : Int}

theorem power_shortest_of_zero (hcanonical : Binary64.Canonical significand exponent)
    (hzero : (Binary64.shortest significand exponent).digits = 0) :
    (Binary64.shortest significand exponent).power = 0 := by
  rcases Nat.eq_zero_or_pos significand with rfl | hpos
  · rfl
  · have hread : Binary64.ofDecimal false (Binary64.shortest significand exponent).digits
        (Binary64.shortest significand exponent).power = .finite false significand exponent :=
      Binary64.ofDecimal_of_value_eq hcanonical rfl
    rw [hzero, Binary64.ofDecimal_zero] at hread
    cases hread
    exact absurd hpos (Nat.lt_irrefl 0)

/-- The text of a double is a sign and a numeral with the value of the shortest decimal. -/
theorem toChars_finite (layout : Layout) (negative : Bool) (significand : Nat) (exponent : Int) :
    ∃ first others, Binary64.toChars layout (.finite negative significand exponent) =
        (if negative then ['-'] else []) ++ first :: others ∧ first.isDigit = true ∧
      (Binary64.Canonical significand exponent → ∀ rest, Ends rest →
        ReadsAs negative (first :: others) rest
          (Binary64.shortest significand exponent).value) := by
  simp only [Binary64.toChars]
  generalize hleading : (Binary64.shortest significand exponent).power +
    (Nat.toDigits 10 (Binary64.shortest significand exponent).digits).length - 1 = leading
  by_cases hplain : layout.leastPositional ≤ leading ∧ leading ≤ layout.greatestPositional
  · simp only [if_pos hplain]
    obtain ⟨first, others, htext, hdigit⟩ :=
      positional_eq_cons (Binary64.shortest significand exponent).digits leading
    refine ⟨first, others, by rw [htext], hdigit, ?_⟩
    intro hcanonical rest hends
    rw [← htext]
    exact readsAs_positional hleading.symm (power_shortest_of_zero hcanonical) hends
  · simp only [if_neg hplain]
    obtain ⟨first, others, htext, hdigit⟩ :=
      scientific_eq_cons layout (Binary64.shortest significand exponent).digits leading
    refine ⟨first, others, by rw [htext], hdigit, ?_⟩
    intro hcanonical rest hends
    rw [← htext]
    exact readsAs_scientific layout hleading.symm hends

/-- A double is read off the front of a text that begins with its own text. -/
theorem readValue_toChars (fuel depth : Nat) {value : Binary64} (hproper : value.IsProper)
    (hends : Ends rest) :
    readValue (fuel + 1) depth (Binary64.toChars numberLayout value ++ rest) =
      .ok (.num (.real value), rest) := by
  cases value with
  | nan => rfl
  | infinite negative => cases negative <;> rfl
  | finite negative significand exponent =>
      obtain ⟨first, others, htext, hdigit, hreads⟩ :=
        toChars_finite numberLayout negative significand exponent
      obtain ⟨digits, power, hvalue, hread⟩ := hreads hproper rest hends
      rw [Binary64.ofDecimal_of_value_eq hproper hvalue, List.cons_append] at hread
      rw [htext, List.append_assoc]
      exact readValue_signed fuel depth hdigit hread

end Json

end VisualNovel
