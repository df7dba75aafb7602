import Mathlib.Algebra.Order.Field.Basic
import Mathlib.Algebra.Order.Ring.Cast
import Mathlib.Tactic.FieldSimp
import Mathlib.Tactic.Linarith

/-! Roundings of an ordered field to a nearest integer and to the multiples of a
step. Only the distance of a rounding is used, so the results hold for every
choice at the midpoints. Two roundings one after the other, to a coarse step and
then to a finer one, act like the coarse one alone. -/
namespace Numeric

variable {K : Type*} [Field K] [LinearOrder K] [IsStrictOrderedRing K]

/-- A rounding to a nearest integer. -/
structure Nearest (round : K → Int) : Prop where
  near : ∀ x, |(round x : K) - x| ≤ 1 / 2

/-- The multiple of `step` to which a rounding takes `x`. -/
def onGrid (round : K → Int) (step x : K) : K := round (x / step) * step

variable {round : K → Int} {step fine coarse x y : K} {n m : Int}

/-- Integers less than one apart are equal. -/
theorem eq_of_abs_sub_lt_one (close : |(n : K) - m| < 1) : n = m := by
  obtain ⟨below, above⟩ := abs_lt.mp close
  have low : (m : K) < (n + 1 : Int) := by
    push_cast
    linarith
  have high : (n : K) < (m + 1 : Int) := by
    push_cast
    linarith
  have low : m < n + 1 := by exact_mod_cast low
  have high : n < m + 1 := by exact_mod_cast high
  omega

namespace Nearest

theorem eq_of_near (nearest : Nearest round) (close : |(n : K) - x| < 1 / 2) : round x = n := by
  apply eq_of_abs_sub_lt_one (K := K)
  calc |(round x : K) - n| = |((round x : K) - x) - (n - x)| := by rw [sub_sub_sub_cancel_right]
    _ ≤ |(round x : K) - x| + |(n : K) - x| := abs_sub _ _
    _ < 1 / 2 + 1 / 2 := add_lt_add_of_le_of_lt (nearest.near x) close
    _ = 1 := add_halves 1

theorem intCast (nearest : Nearest round) (n : Int) : round (n : K) = n := by
  apply nearest.eq_of_near
  rw [sub_self, abs_zero]
  exact half_pos one_pos

theorem mono (nearest : Nearest round) (ordered : x ≤ y) : round x ≤ round y := by
  rcases ordered.eq_or_lt with rfl | less
  · exact le_refl _
  · have above := (abs_le.mp (nearest.near x)).2
    have below := (abs_le.mp (nearest.near y)).1
    have close : (round x : K) < (round y + 1 : Int) := by
      push_cast
      linarith
    exact Int.lt_add_one_iff.mp (by exact_mod_cast close)

/-- A rounding keeps the bounds which are integers. -/
theorem between (nearest : Nearest round) (low : (n : K) ≤ x) (high : x ≤ m) :
    n ≤ round x ∧ round x ≤ m := by
  constructor
  · exact nearest.intCast n ▸ nearest.mono low
  · exact nearest.intCast m ▸ nearest.mono high

end Nearest

/-! ### The multiples of a step -/

theorem onGrid_mono (nearest : Nearest round) (positive : 0 < step) : Monotone (onGrid round step) := by
  intro x y ordered
  have indices : round (x / step) ≤ round (y / step) := by
    apply nearest.mono
    gcongr
  have cast : (round (x / step) : K) ≤ round (y / step) := by exact_mod_cast indices
  exact mul_le_mul_of_nonneg_right cast positive.le

theorem abs_onGrid_sub_le (nearest : Nearest round) (positive : 0 < step) (x : K) :
    |onGrid round step x - x| ≤ step / 2 := by
  have scaled : onGrid round step x - x = (round (x / step) - x / step) * step := by
    rw [onGrid]
    field_simp
  rw [scaled, abs_mul, abs_of_pos positive]
  have bound := mul_le_mul_of_nonneg_right (nearest.near (x / step)) positive.le
  linarith

/-- Numbers with the same multiple are at most a step apart. -/
theorem abs_sub_le_of_onGrid_eq (nearest : Nearest round) (positive : 0 < step)
    (same : onGrid round step x = onGrid round step y) : |x - y| ≤ step := by
  have first := abs_onGrid_sub_le nearest positive x
  have second := abs_onGrid_sub_le nearest positive y
  rw [same] at first
  calc |x - y| = |(onGrid round step y - y) - (onGrid round step y - x)| := by rw [sub_sub_sub_cancel_left]
    _ ≤ |onGrid round step y - y| + |onGrid round step y - x| := abs_sub _ _
    _ ≤ step / 2 + step / 2 := add_le_add second first
    _ = step := add_halves step

/-! ### A coarse step and a finer one -/

/-- Rounding to a finer step does not lose the multiple of the coarse one. -/
theorem round_onGrid_div (nearest : Nearest round) (fine_pos : 0 < fine) (finer : fine < coarse)
    (n : Int) : round (onGrid round fine (n * coarse) / coarse) = n := by
  have coarse_pos : 0 < coarse := fine_pos.trans finer
  apply nearest.eq_of_near
  have scaled : (n : K) - onGrid round fine (n * coarse) / coarse =
      (n * coarse - onGrid round fine (n * coarse)) / coarse := by
    field_simp
  rw [scaled, abs_div, abs_of_pos coarse_pos, div_lt_iff₀ coarse_pos, abs_sub_comm]
  have near := abs_onGrid_sub_le nearest fine_pos (n * coarse : K)
  linarith

theorem onGrid_nested_inj (nearest : Nearest round) (fine_pos : 0 < fine) (finer : fine < coarse) :
    onGrid round fine (n * coarse) = onGrid round fine (m * coarse) ↔ n = m := by
  constructor
  · intro same
    rw [← round_onGrid_div nearest fine_pos finer n, same, round_onGrid_div nearest fine_pos finer]
  · rintro rfl
    rfl

theorem abs_nested_sub_le (nearest : Nearest round) (fine_pos : 0 < fine) (coarse_pos : 0 < coarse)
    (x : K) : |onGrid round fine (onGrid round coarse x) - x| ≤ coarse / 2 + fine / 2 := by
  have inner := abs_onGrid_sub_le nearest coarse_pos x
  have outer := abs_onGrid_sub_le nearest fine_pos (onGrid round coarse x)
  calc |onGrid round fine (onGrid round coarse x) - x|
      ≤ |onGrid round fine (onGrid round coarse x) - onGrid round coarse x| +
          |onGrid round coarse x - x| := abs_sub_le _ _ _
    _ ≤ coarse / 2 + fine / 2 := by linarith

end Numeric
