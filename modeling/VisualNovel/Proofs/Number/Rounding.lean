import VisualNovel.Number.Binary64
import Mathlib.Algebra.Order.Field.Power
import Mathlib.Tactic.Linarith
import Mathlib.Tactic.NormNum
import Mathlib.Tactic.Positivity
import Mathlib.Tactic.Push

/-!
# Rounding to doubles

A ratio is rounded by scaling it to a significand of 53 binary digits and rounding the rest away.
Which ratios go to a given double is said here in rational numbers (`Near`): those that are not
further from it than half a step, where the step below a power of two is half as wide as the one
above it, and where a ratio halfway between two doubles goes to the one with the even significand.

* Every ratio near a double is rounded to it (`ofRatio_of_near`).
* Every ratio is rounded to a double of the kind that all doubles are (`isProper_ofRatio`).
-/

namespace VisualNovel.Binary64

variable {numerator denominator significand : Nat} {exponent : Int} {negative : Bool}

/-- Can a finite double have this significand and this exponent?  Unless the exponent is the least
one, the significand has 53 binary digits. -/
structure Canonical (significand : Nat) (exponent : Int) : Prop where
  bounded : significand < 2 ^ 53
  least : leastExponent ≤ exponent
  greatest : exponent ≤ greatestExponent
  normal : exponent = leastExponent ∨ 2 ^ 52 ≤ significand

/-- Is the double one of those there are? -/
def IsProper : Binary64 → Prop
  | .finite _ significand exponent => Canonical significand exponent
  | _ => True

theorem isProper_zero (negative : Bool) : (zero negative).IsProper :=
  ⟨by decide, le_refl _, by decide, Or.inl rfl⟩

/-! ## Fractions -/

/-- The value of a fraction. -/
def ratio (fraction : Nat × Nat) : ℚ := fraction.1 / fraction.2

theorem scaled_denominator_pos (hpos : 0 < denominator) (exponent : Int) :
    0 < (scaled numerator denominator exponent).2 := by
  cases exponent with
  | ofNat shift => exact Nat.mul_pos hpos (Nat.pow_pos (by decide))
  | negSucc shift => exact hpos

theorem ratio_scaled (numerator denominator : Nat) (exponent : Int) :
    ratio (scaled numerator denominator exponent) = numerator / denominator / 2 ^ exponent := by
  cases exponent with
  | ofNat shift =>
      simp only [ratio, scaled, Nat.pow_eq, Int.ofNat_eq_natCast, zpow_natCast]
      push_cast
      rw [div_div]
  | negSucc shift =>
      simp only [ratio, scaled, Nat.pow_eq, zpow_negSucc, div_inv_eq_mul]
      push_cast
      rw [div_mul_eq_mul_div]

/-! ## Rounding to whole numbers -/

theorem roundHalfEven_le (numerator denominator : Nat) :
    numerator / denominator ≤ roundHalfEven numerator denominator ∧
      roundHalfEven numerator denominator ≤ numerator / denominator + 1 := by
  unfold roundHalfEven
  simp only
  split_ifs <;> omega

/-- A whole number that is not further away than a half is the one to round to, if it is even in
case it is not nearer than that. -/
theorem roundHalfEven_eq {whole : Nat} (hpos : 0 < denominator)
    (hlower : 2 * (whole * denominator) ≤ 2 * numerator + denominator)
    (hupper : 2 * numerator ≤ 2 * (whole * denominator) + denominator)
    (htie : 2 * (whole * denominator) = 2 * numerator + denominator ∨
      2 * numerator = 2 * (whole * denominator) + denominator → whole % 2 = 0) :
    roundHalfEven numerator denominator = whole := by
  have hsplit := Nat.div_add_mod numerator denominator
  have hrest := Nat.mod_lt numerator hpos
  unfold roundHalfEven
  simp only
  generalize numerator / denominator = below at hsplit ⊢
  generalize numerator % denominator = rest at hsplit hrest ⊢
  -- the whole number is one of the two around the fraction
  have hcases : whole = below ∨ whole = below + 1 := by
    rcases Nat.lt_trichotomy whole below with hlt | heq | hgt
    · have hle := Nat.mul_le_mul_right denominator (Nat.succ_le_of_lt hlt)
      rw [Nat.succ_mul, Nat.mul_comm below] at hle
      omega
    · exact Or.inl heq
    · by_contra hnot
      have hle := Nat.mul_le_mul_right denominator (show below + 2 ≤ whole by omega)
      rw [Nat.add_mul, Nat.mul_comm below] at hle
      omega
  rcases hcases with rfl | rfl
  · rw [Nat.mul_comm] at hsplit
    split_ifs <;> omega
  · rw [Nat.add_mul, Nat.one_mul] at hlower hupper htie
    rw [Nat.mul_comm] at hsplit
    split_ifs <;> omega

/-! ## The exponent of a ratio -/

theorem two_zpow_pos (exponent : Int) : (0 : ℚ) < 2 ^ exponent := zpow_pos (by norm_num) exponent

theorem two_zpow_add (exponent : Int) (shift : Nat) :
    (2 : ℚ) ^ (exponent + shift) = 2 ^ shift * 2 ^ exponent := by
  rw [zpow_add₀ (by norm_num), zpow_natCast, mul_comm]

/-- A ratio lies between the powers of two that the digits of its parts tell. -/
theorem ratio_log2 (hnumerator : 0 < numerator) (hdenominator : 0 < denominator) :
    (2 : ℚ) ^ ((numerator.log2 : Int) - denominator.log2 - 1) < numerator / denominator ∧
      (numerator : ℚ) / denominator < 2 ^ ((numerator.log2 : Int) - denominator.log2 + 1) := by
  have hn : (2 ^ numerator.log2 : ℚ) ≤ numerator := by
    exact_mod_cast Nat.log2_self_le (Nat.pos_iff_ne_zero.mp hnumerator)
  have hn' : (numerator : ℚ) < 2 ^ (numerator.log2 + 1) := by
    exact_mod_cast Nat.lt_log2_self
  have hd : (2 ^ denominator.log2 : ℚ) ≤ denominator := by
    exact_mod_cast Nat.log2_self_le (Nat.pos_iff_ne_zero.mp hdenominator)
  have hd' : (denominator : ℚ) < 2 ^ (denominator.log2 + 1) := by
    exact_mod_cast Nat.lt_log2_self
  have hpos : (0 : ℚ) < denominator := by exact_mod_cast hdenominator
  constructor
  · have hpower : (2 : ℚ) ^ ((numerator.log2 : Int) - denominator.log2 - 1) =
        2 ^ numerator.log2 / 2 ^ (denominator.log2 + 1) := by
      rw [show (numerator.log2 : Int) - denominator.log2 - 1 =
          (numerator.log2 : Int) - ((denominator.log2 + 1 : Nat) : Int) by push_cast; omega,
        zpow_sub₀ (by norm_num), zpow_natCast, zpow_natCast]
    rw [hpower, div_lt_div_iff₀ (by positivity) hpos]
    calc (2 : ℚ) ^ numerator.log2 * denominator
        < 2 ^ numerator.log2 * 2 ^ (denominator.log2 + 1) := by gcongr
      _ ≤ numerator * 2 ^ (denominator.log2 + 1) := by gcongr
  · have hpower : (2 : ℚ) ^ ((numerator.log2 : Int) - denominator.log2 + 1) =
        2 ^ (numerator.log2 + 1) / 2 ^ denominator.log2 := by
      rw [show (numerator.log2 : Int) - denominator.log2 + 1 =
          ((numerator.log2 + 1 : Nat) : Int) - denominator.log2 by push_cast; omega,
        zpow_sub₀ (by norm_num), zpow_natCast, zpow_natCast]
    rw [hpower, div_lt_div_iff₀ hpos (by positivity)]
    calc (numerator : ℚ) * 2 ^ denominator.log2
        ≤ numerator * denominator := by gcongr
      _ < 2 ^ (numerator.log2 + 1) * denominator := by gcongr

/-- The exponent is the one at which the significand has 53 binary digits, unless it would be too
small. -/
theorem exponentFor_spec (hnumerator : 0 < numerator) (hdenominator : 0 < denominator) :
    ∃ exact : Int, exponentFor numerator denominator = max leastExponent exact ∧
      (2 : ℚ) ^ (exact + 52) ≤ numerator / denominator ∧
      (numerator : ℚ) / denominator < 2 ^ (exact + 53) := by
  obtain ⟨hlow, hhigh⟩ := ratio_log2 hnumerator hdenominator
  unfold exponentFor
  simp only
  generalize hguess : (numerator.log2 : Int) - denominator.log2 - 53 = guess
  have hfraction : (scaled numerator denominator guess).1 /
      (scaled numerator denominator guess).2 < significandBound ↔
        (numerator : ℚ) / denominator < 2 ^ (guess + 53) := by
    have hpos : (0 : ℚ) < (scaled numerator denominator guess).2 := by
      exact_mod_cast scaled_denominator_pos hdenominator guess
    have hratio := ratio_scaled numerator denominator guess
    rw [ratio, div_eq_iff hpos.ne'] at hratio
    rw [Nat.div_lt_iff_lt_mul (scaled_denominator_pos hdenominator guess),
      ← Nat.cast_lt (α := ℚ), hratio]
    have hbound : ((significandBound * (scaled numerator denominator guess).2 : Nat) : ℚ) =
        2 ^ 53 * (scaled numerator denominator guess).2 := by
      rw [Nat.cast_mul]
      norm_num [significandBound]
    rw [hbound, mul_lt_mul_iff_left₀ hpos, div_lt_iff₀ (two_zpow_pos guess)]
    have hpower := two_zpow_add guess 53
    push_cast at hpower
    rw [hpower]
  -- the guess from the binary digits of the parts is right, or too small by one
  by_cases hsmall : (numerator : ℚ) / denominator < 2 ^ (guess + 53)
  · refine ⟨guess, by rw [if_pos (hfraction.mpr hsmall)], ?_, hsmall⟩
    rw [show guess + 52 = (numerator.log2 : Int) - denominator.log2 - 1 by omega]
    exact hlow.le
  · refine ⟨guess + 1, by rw [if_neg (fun h => hsmall (hfraction.mp h))], ?_, ?_⟩
    · rw [show guess + 1 + 52 = guess + 53 by omega]
      exact not_lt.mp hsmall
    · rw [show guess + 1 + 53 = (numerator.log2 : Int) - denominator.log2 + 1 by omega]
      exact hhigh

theorem exponentFor_eq (hnumerator : 0 < numerator) (hdenominator : 0 < denominator)
    (hleast : leastExponent ≤ exponent)
    (hlow : (2 : ℚ) ^ (exponent + 52) ≤ numerator / denominator)
    (hhigh : (numerator : ℚ) / denominator < 2 ^ (exponent + 53)) :
    exponentFor numerator denominator = exponent := by
  obtain ⟨exact, hexponent, hlow', hhigh'⟩ := exponentFor_spec hnumerator hdenominator
  have hle := (zpow_lt_zpow_iff_right₀ (by norm_num : (1 : ℚ) < 2)).mp (hlow.trans_lt hhigh')
  have hge := (zpow_lt_zpow_iff_right₀ (by norm_num : (1 : ℚ) < 2)).mp (hlow'.trans_lt hhigh)
  rw [hexponent]
  omega

theorem exponentFor_eq_least (hnumerator : 0 < numerator) (hdenominator : 0 < denominator)
    (hhigh : (numerator : ℚ) / denominator < 2 ^ (leastExponent + 53)) :
    exponentFor numerator denominator = leastExponent := by
  obtain ⟨exact, hexponent, hlow', -⟩ := exponentFor_spec hnumerator hdenominator
  have hge := (zpow_lt_zpow_iff_right₀ (by norm_num : (1 : ℚ) < 2)).mp (hlow'.trans_lt hhigh)
  rw [hexponent]
  omega

/-! ## What is rounded to a double -/

/-- How far below a double, in steps, the ratios reach that are rounded to it: half as far if it
is a power of two, as the doubles below it are closer together then. -/
def reach (significand : Nat) (exponent : Int) : ℚ :=
  if significand = 2 ^ 52 ∧ leastExponent < exponent then 1 / 4 else 1 / 2

/-- Is a ratio not further from a double than half a step?  The ratios that are just so far away
count only if the significand is even. -/
structure Near (value : ℚ) (significand : Nat) (exponent : Int) : Prop where
  lower : (significand - reach significand exponent) * 2 ^ exponent ≤ value
  upper : value ≤ (significand + 1 / 2) * 2 ^ exponent
  strict : significand % 2 ≠ 0 →
    (significand - reach significand exponent) * 2 ^ exponent < value ∧
      value < (significand + 1 / 2) * 2 ^ exponent

theorem reach_le (significand : Nat) (exponent : Int) :
    1 / 4 ≤ reach significand exponent ∧ reach significand exponent ≤ 1 / 2 := by
  unfold reach
  split_ifs <;> norm_num

theorem roundHalfEven_of_ratio {fraction : Nat × Nat} {whole : Nat} (hpos : 0 < fraction.2)
    (hlower : (whole : ℚ) - 1 / 2 ≤ ratio fraction) (hupper : ratio fraction ≤ whole + 1 / 2)
    (htie : whole % 2 ≠ 0 → (whole : ℚ) - 1 / 2 < ratio fraction ∧ ratio fraction < whole + 1 / 2) :
    roundHalfEven fraction.1 fraction.2 = whole := by
  have hposQ : (0 : ℚ) < fraction.2 := by exact_mod_cast hpos
  have hscale : ratio fraction * fraction.2 = fraction.1 := div_mul_cancel₀ _ hposQ.ne'
  have hlower' := mul_le_mul_of_nonneg_right hlower hposQ.le
  have hupper' := mul_le_mul_of_nonneg_right hupper hposQ.le
  rw [hscale] at hlower' hupper'
  refine roundHalfEven_eq hpos ?_ ?_ ?_
  · rw [← Nat.cast_le (α := ℚ)]
    push_cast
    linarith
  · rw [← Nat.cast_le (α := ℚ)]
    push_cast
    linarith
  · intro hedge
    by_contra hodd
    obtain ⟨hlow, hhigh⟩ := htie hodd
    have hlow' := mul_lt_mul_of_pos_right hlow hposQ
    have hhigh' := mul_lt_mul_of_pos_right hhigh hposQ
    rw [hscale] at hlow' hhigh'
    rcases hedge with heq | heq
    · have heqQ : (2 * (whole * fraction.2) : ℚ) = 2 * fraction.1 + fraction.2 := by
        exact_mod_cast heq
      linarith
    · have heqQ : (2 * fraction.1 : ℚ) = 2 * (whole * fraction.2) + fraction.2 := by
        exact_mod_cast heq
      linarith

/-- A ratio that has the exponent of a double and is near it is rounded to it. -/
theorem ofRatio_of_exponent (hdenominator : 0 < denominator)
    (hcanonical : Canonical significand exponent) (hpositive : 0 < significand)
    (hexponent : exponentFor numerator denominator = exponent)
    (hnear : Near ((numerator : ℚ) / denominator) significand exponent) :
    ofRatio negative numerator denominator = .finite negative significand exponent := by
  have hstep := two_zpow_pos exponent
  have hreach := (reach_le significand exponent).2
  have hround : roundHalfEven (scaled numerator denominator exponent).1
      (scaled numerator denominator exponent).2 = significand := by
    refine roundHalfEven_of_ratio (scaled_denominator_pos hdenominator exponent) ?_ ?_ ?_
    · rw [ratio_scaled, le_div_iff₀ hstep]
      calc ((significand : ℚ) - 1 / 2) * 2 ^ exponent
          ≤ (significand - reach significand exponent) * 2 ^ exponent := by gcongr
        _ ≤ numerator / denominator := hnear.lower
    · rw [ratio_scaled, div_le_iff₀ hstep]
      exact hnear.upper
    · intro hodd
      rw [ratio_scaled, lt_div_iff₀ hstep, div_lt_iff₀ hstep]
      refine ⟨?_, (hnear.strict hodd).2⟩
      calc ((significand : ℚ) - 1 / 2) * 2 ^ exponent
          ≤ (significand - reach significand exponent) * 2 ^ exponent := by gcongr
        _ < numerator / denominator := (hnear.strict hodd).1
  unfold ofRatio
  simp only [hexponent, hround]
  rw [if_neg hpositive.ne', if_pos (show significand < significandBound from hcanonical.bounded),
    if_pos hcanonical.greatest]

/-- A ratio just below a power of two is rounded to it, though it has a smaller exponent. -/
theorem ofRatio_below_power (hdenominator : 0 < denominator)
    (hgreatest : exponent ≤ greatestExponent)
    (hexponent : exponentFor numerator denominator = exponent - 1)
    (hlower : ((2 : ℚ) ^ 52 - 1 / 4) * 2 ^ exponent ≤ numerator / denominator)
    (hupper : (numerator : ℚ) / denominator < 2 ^ 52 * 2 ^ exponent) :
    ofRatio negative numerator denominator = .finite negative (2 ^ 52) exponent := by
  have hhalf : (2 : ℚ) ^ exponent = 2 * 2 ^ (exponent - 1) := by
    have hpower := two_zpow_add (exponent - 1) 1
    rwa [pow_one, Nat.cast_one, sub_add_cancel] at hpower
  have hstep := two_zpow_pos (exponent - 1)
  have hround : roundHalfEven (scaled numerator denominator (exponent - 1)).1
      (scaled numerator denominator (exponent - 1)).2 = 2 ^ 53 := by
    refine roundHalfEven_of_ratio (scaled_denominator_pos hdenominator _) ?_ ?_ ?_
    · rw [ratio_scaled, le_div_iff₀ hstep]
      rw [hhalf] at hlower
      push_cast
      linarith
    · rw [ratio_scaled, div_le_iff₀ hstep]
      rw [hhalf] at hupper
      push_cast
      linarith
    · intro hodd
      exact absurd (by norm_num) hodd
  unfold ofRatio
  simp only [hexponent, hround]
  have hbelow : exponent - 1 < greatestExponent := by omega
  rw [if_neg (by norm_num), if_neg (show ¬ 2 ^ 53 < significandBound from lt_irrefl _),
    if_pos hbelow, sub_add_cancel]
  rfl

namespace Near

variable {value : ℚ}

theorem pos (hnear : Near value significand exponent) (hpositive : 0 < significand) :
    0 < value := by
  have hone : (1 : ℚ) ≤ significand := by exact_mod_cast hpositive
  have hreach := (reach_le significand exponent).2
  exact lt_of_lt_of_le (mul_pos (by linarith) (two_zpow_pos exponent)) hnear.lower

theorem lt_pow (hnear : Near value significand exponent) (hbounded : significand < 2 ^ 53) :
    value < 2 ^ (exponent + 53) := by
  have hbound : (significand : ℚ) + 1 ≤ 2 ^ 53 := by exact_mod_cast hbounded
  have hpower := two_zpow_add exponent 53
  push_cast at hpower
  rw [hpower]
  calc value ≤ (significand + 1 / 2) * 2 ^ exponent := hnear.upper
    _ < 2 ^ 53 * 2 ^ exponent := by
      refine mul_lt_mul_of_pos_right ?_ (two_zpow_pos exponent)
      linarith

/-- A ratio near a double that has less binary digits than the double is below a power of two. -/
theorem eq_pow (hnear : Near value significand exponent) (hnormal : 2 ^ 52 ≤ significand)
    (hless : value < 2 ^ 52 * 2 ^ exponent) : significand = 2 ^ 52 := by
  have hreach := (reach_le significand exponent).2
  have hlower := lt_of_mul_lt_mul_right (hnear.lower.trans_lt hless) (two_zpow_pos exponent).le
  have hcast : (significand : ℚ) < 2 ^ 52 + 1 := by linarith
  have hlt : significand < 2 ^ 52 + 1 := by exact_mod_cast hcast
  omega

end Near

/-- What is near a double is rounded to it. -/
theorem ofRatio_of_near (hdenominator : 0 < denominator)
    (hcanonical : Canonical significand exponent) (hpositive : 0 < significand)
    (hnear : Near ((numerator : ℚ) / denominator) significand exponent) :
    ofRatio negative numerator denominator = .finite negative significand exponent := by
  have hstep := two_zpow_pos exponent
  have hnumerator : 0 < numerator := by
    have hvalue := hnear.pos hpositive
    rw [Nat.pos_iff_ne_zero]
    rintro rfl
    simp at hvalue
  have hbelow := hnear.lt_pow hcanonical.bounded
  -- from the least normal significand on, the exponent is that of the ratio
  rcases le_or_gt ((2 : ℚ) ^ (exponent + 52)) (numerator / denominator) with hlow | hlow
  · exact ofRatio_of_exponent hdenominator hcanonical hpositive
      (exponentFor_eq hnumerator hdenominator hcanonical.least hlow hbelow) hnear
  · rcases hcanonical.normal with rfl | hnormal
    · exact ofRatio_of_exponent hdenominator hcanonical hpositive
        (exponentFor_eq_least hnumerator hdenominator hbelow) hnear
    · -- the ratio has less binary digits than the double, so the double is a power of two
      have hpower52 := two_zpow_add exponent 52
      push_cast at hpower52
      rw [hpower52] at hlow
      obtain rfl := hnear.eq_pow hnormal hlow
      rcases hcanonical.least.eq_or_lt with rfl | hleast
      · exact ofRatio_of_exponent hdenominator hcanonical hpositive
          (exponentFor_eq_least hnumerator hdenominator hbelow) hnear
      · have hlower := hnear.lower
        rw [reach, if_pos ⟨rfl, hleast⟩] at hlower
        push_cast at hlower
        refine ofRatio_below_power hdenominator hcanonical.greatest
          (exponentFor_eq hnumerator hdenominator (by omega) ?_ ?_) hlower hlow
        · have hpower51 := two_zpow_add exponent 51
          push_cast at hpower51
          rw [show exponent - 1 + 52 = exponent + 51 by omega, hpower51]
          calc (2 : ℚ) ^ 51 * 2 ^ exponent ≤ (2 ^ 52 - 1 / 4) * 2 ^ exponent := by
                refine mul_le_mul_of_nonneg_right ?_ hstep.le
                norm_num
            _ ≤ (numerator : ℚ) / denominator := hlower
        · rw [show exponent - 1 + 53 = exponent + 52 by omega, hpower52]
          exact hlow

/-! ## What doubles there are -/

theorem isProper_ofRatio (negative : Bool) (hdenominator : 0 < denominator) :
    (ofRatio negative numerator denominator).IsProper := by
  have hleast : leastExponent ≤ exponentFor numerator denominator := le_max_left _ _
  unfold ofRatio
  simp only
  generalize hexponent : exponentFor numerator denominator = exponent at hleast
  generalize hround : roundHalfEven (scaled numerator denominator exponent).1
    (scaled numerator denominator exponent).2 = rounded
  split_ifs with hzero hbounded hgreatest hgreatest
  · exact isProper_zero negative
  · refine ⟨hbounded, hleast, hgreatest, ?_⟩
    rcases hleast.eq_or_lt with heq | hlt
    · exact Or.inl heq.symm
    · right
      -- above the least exponent the scaled ratio has 53 binary digits
      have hnumerator : 0 < numerator := by
        rw [Nat.pos_iff_ne_zero]
        rintro rfl
        have hnothing : (scaled 0 denominator exponent).1 = 0 := by
          cases exponent <;> simp [scaled]
        rw [hnothing] at hround
        simp [roundHalfEven] at hround
        exact hzero hround.symm
      obtain ⟨exact, hexact, hlow, -⟩ := exponentFor_spec hnumerator hdenominator
      obtain rfl : exact = exponent := by omega
      have hpos : 0 < (scaled numerator denominator exact).2 :=
        scaled_denominator_pos hdenominator exact
      have hfloor : 2 ^ 52 ≤ (scaled numerator denominator exact).1 /
          (scaled numerator denominator exact).2 := by
        have hpower := two_zpow_add exact 52
        push_cast at hpower
        rw [hpower, ← le_div_iff₀ (two_zpow_pos exact), ← ratio_scaled, ratio,
          le_div_iff₀ (by exact_mod_cast hpos)] at hlow
        rw [Nat.le_div_iff_mul_le hpos]
        exact_mod_cast hlow
      rw [← hround]
      exact hfloor.trans (roundHalfEven_le _ _).1
  · trivial
  · exact ⟨by norm_num [significandBound], by omega, by omega,
      Or.inr (by norm_num [significandBound])⟩
  · trivial

end VisualNovel.Binary64
