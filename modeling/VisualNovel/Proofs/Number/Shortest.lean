import VisualNovel.Number.Shortest
import VisualNovel.Proofs.Number.Rounding
import Mathlib.Data.Nat.Cast.Order.Field
import Mathlib.Tactic.Ring

/-!
# The shortest decimal reads back as the double

The shortest decimal of a double is searched on the grids of one to seventeen digits.  A decimal
is taken only if it is near the double (`holds_iff`), and then it is rounded to it, so all that can
go wrong is that no grid has one.  The grid of seventeen digits always does: its step is at most
`10⁻¹⁶` of the value (`leadingPower_le`), and the ratios near a double reach over more than that
(`onPower?_isSome`), as significands are less than `2⁵³`.

A text may spell the decimal with other digits, so `ofDecimal_of_value_eq` asks only for its value.
-/

namespace VisualNovel.Binary64

variable {numerator denominator significand candidate : Nat} {exponent power : Int}
  {negative : Bool}

/-- The value of a decimal. -/
def Decimal.value (decimal : Decimal) : ℚ := decimal.digits * 10 ^ decimal.power

/-! ## Powers of ten -/

theorem ten_zpow_pos (power : Int) : (0 : ℚ) < 10 ^ power := zpow_pos (by norm_num) power

theorem ten_zpow_add (power : Int) (shift : Nat) :
    (10 : ℚ) ^ (power + shift) = 10 ^ shift * 10 ^ power := by
  rw [zpow_add₀ (by norm_num), zpow_natCast, mul_comm]

theorem lt_ten_pow_digitCount (value : Nat) : value < 10 ^ digitCount value :=
  (Nat.length_toDigits_le_iff (by decide) Nat.length_toDigits_pos).mp le_rfl

theorem ten_pow_digitCount_le {value : Nat} (hpos : 0 < value) :
    10 ^ (digitCount value - 1) ≤ value := by
  by_contra hlt
  rw [Nat.not_le] at hlt
  have hcount : 0 < digitCount value := Nat.length_toDigits_pos
  rcases Nat.eq_zero_or_pos (digitCount value - 1) with hzero | hmore
  · rw [hzero, pow_zero] at hlt
    omega
  · have hle : digitCount value ≤ digitCount value - 1 :=
      (Nat.length_toDigits_le_iff (by decide) hmore).mpr hlt
    omega

/-- The first digit of a ratio does not stand for more than the ratio. -/
theorem leadingPower_le (hnumerator : 0 < numerator) (hdenominator : 0 < denominator) :
    (10 : ℚ) ^ leadingPower numerator denominator ≤ numerator / denominator := by
  have hdenominatorQ : (0 : ℚ) < denominator := by exact_mod_cast hdenominator
  have hnumeratorQ : (0 : ℚ) < numerator := by exact_mod_cast hnumerator
  unfold leadingPower
  split_ifs with hle
  · have hquotient : 0 < numerator / denominator := Nat.div_pos hle hdenominator
    have hcount : 0 < digitCount (numerator / denominator) := Nat.length_toDigits_pos
    rw [show ((digitCount (numerator / denominator) : Nat) : Int) - 1 =
      ((digitCount (numerator / denominator) - 1 : Nat) : Int) by omega, zpow_natCast]
    calc (10 : ℚ) ^ (digitCount (numerator / denominator) - 1)
        ≤ ((numerator / denominator : Nat) : ℚ) := by
          exact_mod_cast ten_pow_digitCount_le hquotient
      _ ≤ numerator / denominator := Nat.cast_div_le
  · -- the inverse of the ratio is at most one more than what is counted
    generalize hwhole : (denominator + numerator - 1) / numerator - 1 = whole
    have hinverse : denominator ≤ (whole + 1) * numerator := by
      have hsplit := Nat.div_add_mod (denominator + numerator - 1) numerator
      have hrest := Nat.mod_lt (denominator + numerator - 1) hnumerator
      have hsome : 0 < (denominator + numerator - 1) / numerator :=
        Nat.div_pos (by omega) hnumerator
      rw [show (denominator + numerator - 1) / numerator = whole + 1 by omega, Nat.mul_comm]
        at hsplit
      omega
    have hpower : (whole + 1) * numerator ≤ 10 ^ digitCount whole * numerator :=
      Nat.mul_le_mul_right numerator (Nat.succ_le_of_lt (lt_ten_pow_digitCount whole))
    rw [zero_sub, zpow_neg, zpow_natCast, inv_eq_one_div,
      div_le_div_iff₀ (by positivity) hdenominatorQ, one_mul, mul_comm]
    exact_mod_cast hinverse.trans hpower

/-! ## The grid -/

theorem onGrid_denominator_pos (hpos : 0 < denominator) (power : Int) :
    0 < (onGrid numerator denominator power).2 := by
  cases power with
  | ofNat shift => exact Nat.mul_pos hpos (Nat.pow_pos (by decide))
  | negSucc shift => exact hpos

theorem ratio_onGrid (numerator denominator : Nat) (power : Int) :
    ratio (onGrid numerator denominator power) = numerator / denominator / 10 ^ power := by
  cases power with
  | ofNat shift =>
      simp only [ratio, onGrid, Nat.pow_eq, Int.ofNat_eq_natCast, zpow_natCast]
      push_cast
      rw [div_div]
  | negSucc shift =>
      simp only [ratio, onGrid, Nat.pow_eq, zpow_negSucc, div_inv_eq_mul]
      push_cast
      rw [div_mul_eq_mul_div]

theorem onGrid_le_iff (numerator candidate : Nat) (power : Int) (hpos : 0 < denominator) :
    (onGrid numerator denominator power).1 ≤ candidate * (onGrid numerator denominator power).2 ↔
      (numerator : ℚ) / denominator ≤ candidate * 10 ^ power := by
  have hgrid : (0 : ℚ) < (onGrid numerator denominator power).2 := by
    exact_mod_cast onGrid_denominator_pos hpos power
  rw [← Nat.cast_le (α := ℚ), Nat.cast_mul, ← div_le_iff₀ hgrid, ← div_le_iff₀ (ten_zpow_pos power),
    ← ratio_onGrid]
  rfl

theorem le_onGrid_iff (numerator candidate : Nat) (power : Int) (hpos : 0 < denominator) :
    candidate * (onGrid numerator denominator power).2 ≤ (onGrid numerator denominator power).1 ↔
      candidate * (10 : ℚ) ^ power ≤ numerator / denominator := by
  have hgrid : (0 : ℚ) < (onGrid numerator denominator power).2 := by
    exact_mod_cast onGrid_denominator_pos hpos power
  rw [← Nat.cast_le (α := ℚ), Nat.cast_mul, ← le_div_iff₀ hgrid, ← le_div_iff₀ (ten_zpow_pos power),
    ← ratio_onGrid]
  rfl

/-! ## The interval of a double -/

theorem magnitude_denominator_pos (significand : Nat) (exponent : Int) :
    0 < (magnitude significand exponent).2 := by
  cases exponent with
  | ofNat shift => exact Nat.one_pos
  | negSucc shift => exact Nat.pow_pos (by decide)

theorem ratio_magnitude (significand : Nat) (exponent : Int) :
    ratio (magnitude significand exponent) = significand * 2 ^ exponent := by
  cases exponent with
  | ofNat shift =>
      simp only [ratio, magnitude, Nat.pow_eq, Int.ofNat_eq_natCast, zpow_natCast]
      push_cast
      rw [div_one]
  | negSucc shift =>
      simp only [ratio, magnitude, Nat.pow_eq, zpow_negSucc]
      push_cast
      rw [div_eq_mul_inv]

theorem magnitude_eq (significand : Nat) (exponent : Int) :
    magnitude significand exponent =
      (significand * (magnitude 1 exponent).1, (magnitude 1 exponent).2) := by
  cases exponent with
  | ofNat shift => simp [magnitude]
  | negSucc shift => simp [magnitude]

theorem interval_denominator_pos (significand : Nat) (exponent : Int) :
    0 < (interval significand exponent).denominator :=
  Nat.mul_pos (by decide) (magnitude_denominator_pos significand exponent)

/-- A quarter of a number of steps, as a fraction over the common denominator. -/
theorem quarters (quarters : Nat) (exponent : Int) :
    ((quarters * (magnitude 1 exponent).1 : Nat) : ℚ) / (4 * (magnitude 1 exponent).2 : Nat) =
      quarters / 4 * 2 ^ exponent := by
  have hstep := ratio_magnitude 1 exponent
  rw [ratio, Nat.cast_one, one_mul] at hstep
  rw [← hstep]
  push_cast
  rw [mul_div_mul_comm]

theorem interval_value (significand : Nat) (exponent : Int) :
    ((interval significand exponent).value : ℚ) / (interval significand exponent).denominator =
      significand * 2 ^ exponent := by
  simp only [interval, magnitude_eq significand exponent]
  rw [← Nat.mul_assoc, quarters]
  push_cast
  rw [mul_div_cancel_left₀ _ (by norm_num)]

theorem interval_upper (significand : Nat) (exponent : Int) :
    ((interval significand exponent).upper : ℚ) / (interval significand exponent).denominator =
      (significand + 1 / 2) * 2 ^ exponent := by
  simp only [interval, magnitude_eq significand exponent]
  rw [← Nat.mul_assoc, ← Nat.add_mul, quarters]
  push_cast
  ring

theorem interval_lower (hpos : 0 < significand) :
    ((interval significand exponent).lower : ℚ) / (interval significand exponent).denominator =
      (significand - reach significand exponent) * 2 ^ exponent := by
  have hhalf : significandBound / 2 = 2 ^ 52 := rfl
  simp only [interval, magnitude_eq significand exponent, hhalf]
  unfold reach
  split_ifs with hnarrow
  · have hsub : 4 * (significand * (magnitude 1 exponent).1) - (magnitude 1 exponent).1 =
        (4 * significand - 1) * (magnitude 1 exponent).1 := by
      rw [Nat.sub_mul, Nat.one_mul, Nat.mul_assoc]
    rw [hsub, quarters, Nat.cast_sub (by omega)]
    push_cast
    ring
  · have hsub : 4 * (significand * (magnitude 1 exponent).1) - 2 * (magnitude 1 exponent).1 =
        (4 * significand - 2) * (magnitude 1 exponent).1 := by
      rw [Nat.sub_mul, Nat.mul_assoc]
    rw [hsub, quarters, Nat.cast_sub (by omega)]
    push_cast
    ring

theorem holds_iff (hpos : 0 < significand) :
    (interval significand exponent).holds candidate power = true ↔
      Near (candidate * 10 ^ power) significand exponent := by
  have hdenominator := interval_denominator_pos significand exponent
  have hlow := onGrid_le_iff (interval significand exponent).lower candidate power hdenominator
  have hhigh := le_onGrid_iff (interval significand exponent).upper candidate power hdenominator
  have hlow' := le_onGrid_iff (interval significand exponent).lower candidate power hdenominator
  have hhigh' := onGrid_le_iff (interval significand exponent).upper candidate power hdenominator
  rw [interval_lower hpos] at hlow hlow'
  rw [interval_upper] at hhigh hhigh'
  have hclosed : (interval significand exponent).closed = decide (significand % 2 = 0) := rfl
  unfold Interval.holds
  simp only [hclosed, decide_eq_true_eq]
  split_ifs with heven
  · rw [decide_eq_true_eq, hlow, hhigh]
    exact ⟨fun h => ⟨h.1, h.2, fun hodd => absurd heven hodd⟩, fun h => ⟨h.lower, h.upper⟩⟩
  · rw [decide_eq_true_eq, ← Nat.not_le, ← Nat.not_le, hlow', hhigh', not_le, not_le]
    exact ⟨fun h => ⟨h.1.le, h.2.le, fun _ => h⟩, fun h => h.strict heven⟩

/-! ## The search -/

theorem near_of_onPower? (hpos : 0 < significand) {decimal : Decimal}
    (hfound : (interval significand exponent).onPower? power = some decimal) :
    Near decimal.value significand exponent := by
  have hholds : (interval significand exponent).holds decimal.digits decimal.power = true := by
    unfold Interval.onPower? at hfound
    simp only at hfound
    split at hfound
    case h_1 => cases hfound
    case h_2 hbelow _ =>
      cases hfound
      exact hbelow
    case h_3 habove =>
      cases hfound
      exact habove
    case h_4 hbelow habove =>
      cases hfound
      obtain ⟨hle, hge⟩ := roundHalfEven_le
        (onGrid (interval significand exponent).value (interval significand exponent).denominator
          power).1
        (onGrid (interval significand exponent).value (interval significand exponent).denominator
          power).2
      rcases hle.eq_or_lt with heq | hlt
      · exact heq ▸ hbelow
      · exact (Nat.le_antisymm hge hlt) ▸ habove
  exact (holds_iff hpos).mp hholds

/-- The value lies between the two decimals around it. -/
theorem between_onGrid (significand : Nat) (exponent power : Int) :
    let bounds := interval significand exponent
    let scaled := onGrid bounds.value bounds.denominator power
    ((scaled.1 / scaled.2 : Nat) : ℚ) * 10 ^ power ≤ significand * 2 ^ exponent ∧
      (significand : ℚ) * 2 ^ exponent ≤ ((scaled.1 / scaled.2 + 1 : Nat) : ℚ) * 10 ^ power := by
  intro bounds scaled
  have hdenominator : 0 < bounds.denominator := interval_denominator_pos significand exponent
  have hscaled : 0 < scaled.2 := onGrid_denominator_pos hdenominator power
  rw [← interval_value]
  constructor
  · exact (le_onGrid_iff _ _ _ hdenominator).mp (Nat.div_mul_le_self ..)
  · refine (onGrid_le_iff _ _ _ hdenominator).mp ?_
    rw [Nat.add_mul, Nat.one_mul]
    exact (Nat.lt_div_mul_add hscaled).le

/-- Of two ratios around a double that are not further from each other than the double reaches, one
is near it. -/
theorem near_or_near {low high : ℚ} (hlow : low ≤ significand * 2 ^ exponent)
    (hhigh : significand * 2 ^ exponent ≤ high)
    (hclose : high - low < (reach significand exponent + 1 / 2) * 2 ^ exponent) :
    Near low significand exponent ∨ Near high significand exponent := by
  have hstep := two_zpow_pos exponent
  have hreach := reach_le significand exponent
  by_contra hneither
  obtain ⟨hnotLow, hnotHigh⟩ := not_or.mp hneither
  -- otherwise both are at least as far away as the double reaches
  have hfarBelow : low ≤ (significand - reach significand exponent) * 2 ^ exponent := by
    by_contra hless
    rw [not_le] at hless
    have hupper : low < (significand + 1 / 2) * 2 ^ exponent := by
      refine hlow.trans_lt (mul_lt_mul_of_pos_right ?_ hstep)
      linarith
    exact hnotLow ⟨hless.le, hupper.le, fun _ => ⟨hless, hupper⟩⟩
  have hfarAbove : ((significand : ℚ) + 1 / 2) * 2 ^ exponent ≤ high := by
    by_contra hless
    rw [not_le] at hless
    have hlower : ((significand : ℚ) - reach significand exponent) * 2 ^ exponent < high := by
      refine (mul_lt_mul_of_pos_right ?_ hstep).trans_le hhigh
      linarith [hreach.1]
    exact hnotHigh ⟨hlower.le, hless.le, fun _ => ⟨hlower, hless⟩⟩
  linarith

/-- A double reaches over more than `10⁻¹⁶` of its value. -/
theorem lt_reach (hbounded : significand < 2 ^ 53) :
    (significand : ℚ) < (reach significand exponent + 1 / 2) * 10 ^ 16 := by
  unfold reach
  split_ifs with hnarrow
  · rw [hnarrow.1]
    norm_num
  · have hbound : (significand : ℚ) < 2 ^ 53 := by exact_mod_cast hbounded
    norm_num at hbound ⊢
    linarith

theorem onPower?_isSome_of_holds {bounds : Interval} (hholds :
    let scaled := onGrid bounds.value bounds.denominator power
    bounds.holds (scaled.1 / scaled.2) power = true ∨
      bounds.holds (scaled.1 / scaled.2 + 1) power = true) :
    (bounds.onPower? power).isSome = true := by
  unfold Interval.onPower?
  simp only at hholds ⊢
  split
  case h_1 hbelow habove => simp [hbelow, habove] at hholds
  all_goals rfl

/-- If the step of a grid is at most `10⁻¹⁶` of the value, then one of the two decimals around the
value is near the double. -/
theorem onPower?_isSome (hcanonical : Canonical significand exponent) (hpos : 0 < significand)
    (hfine : (10 : ℚ) ^ (power + 16) ≤ significand * 2 ^ exponent) :
    ((interval significand exponent).onPower? power).isSome = true := by
  have hclose : (10 : ℚ) ^ power < (reach significand exponent + 1 / 2) * 2 ^ exponent := by
    have hpower : (10 : ℚ) ^ (power + 16) = 10 ^ 16 * 10 ^ power := by
      exact_mod_cast ten_zpow_add power 16
    refine lt_of_mul_lt_mul_left ?_ (by norm_num : (0 : ℚ) ≤ 10 ^ 16)
    calc (10 : ℚ) ^ 16 * 10 ^ power
        ≤ significand * 2 ^ exponent := hpower ▸ hfine
      _ < (reach significand exponent + 1 / 2) * 10 ^ 16 * 2 ^ exponent :=
          mul_lt_mul_of_pos_right (lt_reach hcanonical.bounded) (two_zpow_pos exponent)
      _ = 10 ^ 16 * ((reach significand exponent + 1 / 2) * 2 ^ exponent) := by ring
  obtain ⟨hlow, hhigh⟩ := between_onGrid significand exponent power
  have hnear := near_or_near hlow hhigh <| by
    rw [← sub_mul]
    push_cast
    rwa [add_sub_cancel_left, one_mul]
  rw [← holds_iff hpos, ← holds_iff hpos] at hnear
  exact onPower?_isSome_of_holds hnear

/-- What is found is near the double, if something is found on the finest grid. -/
theorem near_search (hpos : 0 < significand) {leading : Int}
    (hlast : ((interval significand exponent).onPower? (leading - 16)).isSome = true)
    (tries : Nat) :
    Near ((interval significand exponent).search leading (tries + 1)).value significand
      exponent := by
  induction tries with
  | zero =>
      obtain ⟨decimal, hfound⟩ := Option.isSome_iff_exists.mp hlast
      have hgrid : (interval significand exponent).onPower? (leading - (16 - 0 : Nat)) =
          some decimal := hfound
      rw [Interval.search, hgrid]
      exact near_of_onPower? hpos hfound
  | succ tries ih =>
      rw [Interval.search]
      cases hfound : (interval significand exponent).onPower?
          (leading - (16 - (tries + 1) : Nat)) with
      | some decimal => exact near_of_onPower? hpos hfound
      | none => exact ih

theorem value_trimmed_go (fuel : Nat) (decimal : Decimal) :
    (Decimal.trimmed.go fuel decimal).value = decimal.value := by
  induction fuel generalizing decimal with
  | zero => rfl
  | succ fuel ih =>
      rw [Decimal.trimmed.go]
      split_ifs with hzero
      · have hdigits : decimal.digits = decimal.digits / 10 * 10 :=
          (Nat.div_mul_cancel (Nat.dvd_of_mod_eq_zero hzero.2)).symm
        have hpower := ten_zpow_add decimal.power 1
        rw [Nat.cast_one, pow_one] at hpower
        calc (Decimal.trimmed.go fuel ⟨decimal.digits / 10, decimal.power + 1⟩).value
            = (decimal.digits / 10 : Nat) * (10 : ℚ) ^ (decimal.power + 1) := ih _
          _ = ((decimal.digits / 10 * 10 : Nat) : ℚ) * 10 ^ decimal.power := by
              rw [hpower, Nat.cast_mul, Nat.cast_ofNat, mul_assoc]
          _ = decimal.value := by rw [← hdigits, Decimal.value]
      · rfl

@[simp] theorem value_trimmed (decimal : Decimal) : decimal.trimmed.value = decimal.value :=
  value_trimmed_go _ decimal

/-- The shortest decimal is near the double. -/
theorem near_shortest (hcanonical : Canonical significand exponent) (hpos : 0 < significand) :
    Near (shortest significand exponent).value significand exponent := by
  have hvalue : 0 < (interval significand exponent).value := by
    rw [Nat.pos_iff_ne_zero]
    intro hzero
    have hmagnitude : (0 : ℚ) < significand * 2 ^ exponent :=
      mul_pos (by exact_mod_cast hpos) (two_zpow_pos exponent)
    rw [← interval_value, hzero, Nat.cast_zero, zero_div] at hmagnitude
    exact lt_irrefl _ hmagnitude
  rw [shortest, if_neg hpos.ne']
  simp only [value_trimmed]
  refine near_search hpos (onPower?_isSome hcanonical hpos ?_) 16
  rw [sub_add_cancel, ← interval_value]
  exact leadingPower_le hvalue (interval_denominator_pos significand exponent)

/-! ## Reading the decimal back -/

theorem ofDecimal_zero (negative : Bool) (power : Int) :
    ofDecimal negative 0 power = zero negative := rfl

theorem two_pow_lt_ten_pow : (2 : ℚ) ^ 1200 < 10 ^ 400 := by
  rw [show 1200 = 3 * 400 from rfl, pow_mul]
  exact pow_lt_pow_left₀ (by norm_num) (by norm_num) (by decide)

/-- A decimal near a double is in the range in which it is computed. -/
theorem magnitude_of_near {digits : Nat} (hdigits : 0 < digits)
    (hcanonical : Canonical significand exponent) (hpos : 0 < significand)
    (hnear : Near (digits * 10 ^ power) significand exponent) :
    -400 ≤ ((Nat.toDigits 10 digits).length : Int) + power ∧
      ((Nat.toDigits 10 digits).length : Int) + power ≤ 400 := by
  have hone : (1 : ℚ) ≤ significand := by exact_mod_cast hpos
  have hreach := (reach_le significand exponent).2
  have hcount : 0 < digitCount digits := Nat.length_toDigits_pos
  have hten := ten_zpow_pos power
  constructor
  · -- a smaller decimal would lie below half the least double
    by_contra hsmall
    rw [not_le] at hsmall
    have hdigitsQ : (digits : ℚ) ≤ 10 ^ digitCount digits := by
      exact_mod_cast (lt_ten_pow_digitCount digits).le
    have hlow : (2 : ℚ) ^ (-1075 : Int) < 2 ^ (-1200 : Int) := by
      calc (2 : ℚ) ^ (-1075 : Int) = 1 / 2 * 2 ^ leastExponent := by
            rw [leastExponent, show (-1075 : Int) = -1 + -1074 from rfl, zpow_add₀ (by norm_num),
              zpow_neg_one, one_div]
        _ ≤ (significand - reach significand exponent) * 2 ^ exponent := by
            refine mul_le_mul (by linarith) ?_ (two_zpow_pos _).le (by linarith)
            exact zpow_le_zpow_right₀ (by norm_num) hcanonical.least
        _ ≤ digits * 10 ^ power := hnear.lower
        _ ≤ 10 ^ digitCount digits * 10 ^ power := mul_le_mul_of_nonneg_right hdigitsQ hten.le
        _ = 10 ^ (power + (digitCount digits : Int)) := (ten_zpow_add power _).symm
        _ ≤ 10 ^ (-400 : Int) := by
            refine zpow_le_zpow_right₀ (by norm_num) ?_
            rw [digitCount]
            omega
        _ < 2 ^ (-1200 : Int) := by
            rw [zpow_neg, zpow_neg]
            exact inv_strictAnti₀ (by positivity) (by exact_mod_cast two_pow_lt_ten_pow)
    exact absurd ((zpow_lt_zpow_iff_right₀ (by norm_num)).mp hlow) (by decide)
  · -- a larger one would lie above the greatest double
    by_contra hlarge
    rw [not_le] at hlarge
    have hdigitsQ : (10 : ℚ) ^ (digitCount digits - 1) ≤ digits := by
      exact_mod_cast ten_pow_digitCount_le hdigits
    have hhigh : (2 : ℚ) ^ (1200 : Int) < 2 ^ (1025 : Int) := by
      calc (2 : ℚ) ^ (1200 : Int) < 10 ^ (400 : Int) := by exact_mod_cast two_pow_lt_ten_pow
        _ ≤ 10 ^ (power + ((digitCount digits - 1 : Nat) : Int)) := by
            refine zpow_le_zpow_right₀ (by norm_num) ?_
            rw [digitCount] at hcount ⊢
            omega
        _ = 10 ^ (digitCount digits - 1) * 10 ^ power := ten_zpow_add power _
        _ ≤ digits * 10 ^ power := mul_le_mul_of_nonneg_right hdigitsQ hten.le
        _ ≤ (significand + 1 / 2) * 2 ^ exponent := hnear.upper
        _ ≤ 2 ^ 54 * 2 ^ greatestExponent := by
            have hbounded : (significand : ℚ) < 2 ^ 53 := by exact_mod_cast hcanonical.bounded
            refine mul_le_mul (by linarith) ?_ (two_zpow_pos _).le (by norm_num)
            exact zpow_le_zpow_right₀ (by norm_num) hcanonical.greatest
        _ = 2 ^ (1025 : Int) := (two_zpow_add greatestExponent 54).symm
    exact absurd ((zpow_lt_zpow_iff_right₀ (by norm_num)).mp hhigh) (by decide)

theorem ofDecimal_of_near {digits : Nat} (hcanonical : Canonical significand exponent)
    (hpos : 0 < significand) (hnear : Near (digits * 10 ^ power) significand exponent) :
    ofDecimal negative digits power = .finite negative significand exponent := by
  have hdigits : 0 < digits := by
    rw [Nat.pos_iff_ne_zero]
    rintro rfl
    have hone : (1 : ℚ) ≤ significand := by exact_mod_cast hpos
    have hlow : (0 : ℚ) < (significand - reach significand exponent) * 2 ^ exponent :=
      mul_pos (by linarith [(reach_le significand exponent).2]) (two_zpow_pos exponent)
    have hvalue := hlow.trans_le hnear.lower
    rw [Nat.cast_zero, zero_mul] at hvalue
    exact lt_irrefl _ hvalue
  obtain ⟨hsmall, hlarge⟩ := magnitude_of_near hdigits hcanonical hpos hnear
  unfold ofDecimal
  simp only
  rw [if_neg hdigits.ne', if_neg (by omega), if_neg (by omega)]
  cases power with
  | ofNat shift =>
      refine ofRatio_of_near Nat.one_pos hcanonical hpos ?_
      rw [Int.ofNat_eq_natCast, zpow_natCast] at hnear
      rwa [Nat.cast_one, div_one, Nat.cast_mul, Nat.pow_eq, Nat.cast_pow, Nat.cast_ofNat]
  | negSucc shift =>
      refine ofRatio_of_near (Nat.pow_pos (by decide)) hcanonical hpos ?_
      rw [zpow_negSucc, ← div_eq_mul_inv] at hnear
      rwa [Nat.pow_eq, Nat.cast_pow, Nat.cast_ofNat]

/-- Digits with the value of the shortest decimal of a double are read as the double. -/
theorem ofDecimal_of_value_eq {digits : Nat} (hcanonical : Canonical significand exponent)
    (hvalue : digits * 10 ^ power = (shortest significand exponent).value) :
    ofDecimal negative digits power = .finite negative significand exponent := by
  rcases Nat.eq_zero_or_pos significand with rfl | hpos
  · have hexponent : exponent = leastExponent := hcanonical.normal.resolve_right (by norm_num)
    have hzero : (digits : ℚ) * 10 ^ power = 0 := by
      rw [hvalue, shortest, if_pos rfl, Decimal.value, Nat.cast_zero, zero_mul]
    have hdigits : digits = 0 := by
      exact_mod_cast (mul_eq_zero.mp hzero).resolve_right (ten_zpow_pos power).ne'
    rw [hdigits, hexponent, ofDecimal_zero, zero]
  · exact ofDecimal_of_near hcanonical hpos (hvalue ▸ near_shortest hcanonical hpos)

theorem isProper_ofDecimal (negative : Bool) (digits : Nat) (power : Int) :
    (ofDecimal negative digits power).IsProper := by
  unfold ofDecimal
  simp only
  split_ifs
  · exact isProper_zero negative
  · trivial
  · exact isProper_zero negative
  · cases power with
    | ofNat shift => exact isProper_ofRatio negative Nat.one_pos
    | negSucc shift => exact isProper_ofRatio negative (Nat.pow_pos (by decide))

end VisualNovel.Binary64
