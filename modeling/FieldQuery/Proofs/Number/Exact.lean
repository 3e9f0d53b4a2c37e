import FieldQuery.Number.Decimal
import FieldQuery.Proofs.Number.Shortest

/-!
# Numbers known by their value

What is modelled. A binary number has a sign, a mantissa and an exponent, and the mantissa has its
leading bit in place unless the exponent is the smallest there is, so neither part can give way to
the other. A decimal keeps trailing zeros. In both formats zero has two signs.

What is proved. A binary number is known by its value (`Binary64.eq_of_toRat_eq`). A decimal is not,
but among decimals of one exponent it is (`Decimal.eq_of_ratOfNumeral_eq`).

The negative zero is left out in both, and so are the words for what is infinite or no number.
-/

namespace FieldQuery

namespace Binary64

variable {x y : Binary64}

theorem mantissa_eq (x : Binary64) :
    x.mantissa = if x.scale.toNat = 0 then x.fraction.toNat else 2 ^ 52 + x.fraction.toNat := by
  have hscale : x.scale = 0 ↔ x.scale.toNat = 0 := by
    rw [← BitVec.toNat_inj]
    exact Iff.rfl
  unfold mantissa
  simp only [hscale]
  rfl

/-- A number above the smallest exponent has its leading bit in place. -/
theorem le_mantissa (he : -1074 < y.exponent) : 2 ^ 52 ≤ y.mantissa := by
  unfold exponent at he
  rw [mantissa_eq, if_neg (by omega)]
  omega

theorem magnitude_ne_of_exponent_lt (he : x.exponent < y.exponent) : x.magnitude ≠ y.magnitude := by
  intro h
  have hhigh := x.mantissa_lt
  have hlow : 2 ^ 52 ≤ y.mantissa := le_mantissa (by have := x.exponent_bounds; omega)
  have hstep : (2 : ℚ) ≤ 2 ^ (y.exponent - x.exponent) := by
    have hone : (2 : ℚ) ^ (1 : ℤ) ≤ 2 ^ (y.exponent - x.exponent) :=
      zpow_le_zpow_right₀ (by norm_num) (by omega)
    rwa [zpow_one] at hone
  have hmantissa : (x.mantissa : ℚ) = y.mantissa * 2 ^ (y.exponent - x.exponent) := by
    have hunit : (2 : ℚ) ^ x.exponent ≠ 0 := by positivity
    unfold magnitude at h
    rw [zpow_sub₀ (by norm_num), ← mul_div_assoc, ← h, mul_div_assoc, div_self hunit, mul_one]
  have hdouble : (y.mantissa * 2 : ℚ) ≤ x.mantissa := by
    rw [hmantissa]
    exact mul_le_mul_of_nonneg_left hstep (by positivity)
  have hdouble : y.mantissa * 2 ≤ x.mantissa := by exact_mod_cast hdouble
  omega

theorem parts_eq_of_magnitude_eq (h : x.magnitude = y.magnitude) :
    x.exponent = y.exponent ∧ x.mantissa = y.mantissa := by
  have he : x.exponent = y.exponent := by
    rcases lt_trichotomy x.exponent y.exponent with hlt | heq | hgt
    · exact absurd h (magnitude_ne_of_exponent_lt hlt)
    · exact heq
    · exact absurd h.symm (magnitude_ne_of_exponent_lt hgt)
  refine ⟨he, ?_⟩
  unfold magnitude at h
  rw [he] at h
  exact_mod_cast mul_right_cancel₀ (by positivity) h

/-- The two lowest scales share an exponent, but only one of them has no leading bit. -/
theorem eq_of_parts_eq (hnegative : x.negative = y.negative) (he : x.exponent = y.exponent)
    (hm : x.mantissa = y.mantissa) : x = y := by
  have hx := x.fraction.isLt
  have hy := y.fraction.isLt
  unfold exponent at he
  rw [mantissa_eq, mantissa_eq] at hm
  have hparts : x.scale.toNat = y.scale.toNat ∧ x.fraction.toNat = y.fraction.toNat := by
    split at hm <;> split at hm <;> omega
  obtain ⟨negative, scale, fraction⟩ := x
  obtain ⟨negative', scale', fraction'⟩ := y
  have hscale : scale = scale' := BitVec.eq_of_toNat_eq hparts.1
  have hfraction : fraction = fraction' := BitVec.eq_of_toNat_eq hparts.2
  have hnegative : negative = negative' := hnegative
  rw [hnegative, hscale, hfraction]

theorem toRat_eq (x : Binary64) :
    x.toRat = if x.negative then -x.magnitude else x.magnitude := by
  obtain ⟨hd, hn⟩ := x.ratio_spec
  have hd : (x.ratio.2 : ℚ) ≠ 0 := by exact_mod_cast hd.ne'
  show mkRat (if x.negative then -(x.ratio.1 : ℤ) else x.ratio.1) x.ratio.2 = _
  rw [Rat.mkRat_eq_div]
  split
  · push_cast
    rw [hn, neg_div, mul_div_assoc, div_self hd, mul_one]
  · push_cast
    rw [hn, mul_div_assoc, div_self hd, mul_one]

theorem eq_infinity_of_isInfinite (h : x.isInfinite = true) : x = infinity x.negative := by
  unfold isInfinite at h
  rw [Bool.and_eq_true, beq_iff_eq, beq_iff_eq] at h
  unfold infinity
  rw [← h.1, ← h.2]

theorem magnitude_nonneg (x : Binary64) : 0 ≤ x.magnitude := by
  unfold magnitude
  positivity

theorem isZero_of_magnitude_eq_zero (h : x.magnitude = 0) : x.isZero = true := by
  have hmantissa : x.mantissa = 0 := by
    unfold magnitude at h
    rcases mul_eq_zero.mp h with hm | hpower
    · exact_mod_cast hm
    · exact absurd hpower (by positivity)
  rw [mantissa_eq] at hmantissa
  have hparts : x.scale.toNat = 0 ∧ x.fraction.toNat = 0 := by
    split at hmantissa <;> omega
  have hscale : x.scale = 0 := BitVec.eq_of_toNat_eq hparts.1
  have hfraction : x.fraction = 0 := BitVec.eq_of_toNat_eq hparts.2
  unfold isZero
  rw [hscale, hfraction]
  rfl

/-- Numbers of one value are one number, but for the negative zero. -/
theorem eq_of_toRat_eq (hx : x.isZero = true → x.negative = false)
    (hy : y.isZero = true → y.negative = false) (h : x.toRat = y.toRat) : x = y := by
  rw [toRat_eq, toRat_eq] at h
  have hxn := x.magnitude_nonneg
  have hyn := y.magnitude_nonneg
  have hmagnitude : x.magnitude = y.magnitude := by
    split at h <;> split at h <;> linarith
  have hnegative : x.negative = y.negative := by
    by_contra hne
    have hzero : x.magnitude = 0 := by
      rw [← hmagnitude, Bool.eq_not_of_ne hne] at h
      revert h
      cases y.negative
      · intro h
        have h : -x.magnitude = x.magnitude := h
        linarith
      · intro h
        have h : x.magnitude = -x.magnitude := h
        linarith
    have hxpositive := hx (isZero_of_magnitude_eq_zero hzero)
    have hypositive := hy (isZero_of_magnitude_eq_zero (hmagnitude ▸ hzero))
    exact hne (hxpositive.trans hypositive.symm)
  obtain ⟨hexponent, hmantissa⟩ := parts_eq_of_magnitude_eq hmagnitude
  exact eq_of_parts_eq hnegative hexponent hmantissa

end Binary64

namespace Decimal

/-- The coefficient with its sign. -/
def signed (x : Numeral) : ℤ := if x.negative then -(x.coefficient : ℤ) else x.coefficient

theorem ratOfNumeral_eq (x : Numeral) : ratOfNumeral x = signed x * 10 ^ x.exponent := by
  have hclear := Binary64.zpow_mul_pow_neg (b := 10) (by norm_num) x.exponent
  show (if 0 ≤ x.exponent then mkRat (signed x * Nat.pow 10 x.exponent.toNat) 1
    else mkRat (signed x) (Nat.pow 10 (-x.exponent).toNat)) = _
  simp only [Nat.pow_eq, Rat.mkRat_eq_div]
  split
  · next hexponent =>
    have hneg : (-x.exponent).toNat = 0 := by omega
    rw [hneg, pow_zero, mul_one] at hclear
    rw [hclear]
    push_cast
    rw [div_one]
  · next hexponent =>
    have hpos : x.exponent.toNat = 0 := by omega
    rw [hpos, pow_zero] at hclear
    push_cast
    rw [eq_one_div_of_mul_eq_one_left hclear, mul_one_div]

/-- Among decimals of one exponent a number is known by its value, but for the negative zero. -/
theorem eq_of_ratOfNumeral_eq {x y : Numeral} (hexponent : x.exponent = y.exponent)
    (hx : x.coefficient = 0 → x.negative = false) (hy : y.coefficient = 0 → y.negative = false)
    (h : ratOfNumeral x = ratOfNumeral y) : x = y := by
  rw [ratOfNumeral_eq, ratOfNumeral_eq, hexponent] at h
  have hsigned : signed x = signed y := Int.cast_injective (mul_right_cancel₀ (by positivity) h)
  unfold signed at hsigned
  have hcoefficient : x.coefficient = y.coefficient := by
    split at hsigned <;> split at hsigned <;> omega
  have hnegative : x.negative = y.negative := by
    by_contra hne
    have hzero : x.coefficient = 0 := by
      split at hsigned <;> split at hsigned <;> grind
    exact hne ((hx hzero).trans (hy (hcoefficient ▸ hzero)).symm)
  obtain ⟨negative, coefficient, exponent⟩ := x
  simp only at hexponent hcoefficient hnegative
  rw [hnegative, hcoefficient, hexponent]

end Decimal

end FieldQuery
