import FlightHub.Common.Python
import FlightHub.Numeric.Rounding
import Mathlib.Algebra.Order.Field.Rat
import Mathlib.Data.Rat.Floor

/-! Python's `round` is a rounding to a nearest integer, and with digits one to
the multiples of a power of ten. -/
namespace FlightHub.Python
open Numeric

theorem roundEven_cases (x : ℚ) :
    (roundEven x = x.floor ∧ x - x.floor ≤ 1 / 2) ∨
      (roundEven x = x.floor + 1 ∧ 1 / 2 ≤ x - x.floor) := by
  simp only [roundEven]
  split
  · next low => exact .inl ⟨rfl, low.le⟩
  · next low =>
    split
    · next high => exact .inr ⟨rfl, high.le⟩
    · next high =>
      split
      · exact .inl ⟨rfl, not_lt.mp high⟩
      · exact .inr ⟨rfl, not_lt.mp low⟩

theorem roundEven_nearest : Nearest roundEven where
  near x := by
    have below : (x.floor : ℚ) ≤ x := Rat.floor_le x
    have above : x < (x.floor + 1 : Int) := Rat.lt_floor_add_one x
    push_cast at above
    rcases roundEven_cases x with ⟨same, close⟩ | ⟨same, close⟩
    · rw [same, abs_sub_comm, abs_of_nonneg (sub_nonneg.mpr below)]
      exact close
    · rw [same, abs_of_nonneg]
      all_goals
        push_cast
        linarith

theorem roundTo_eq (digits : Nat) (x : ℚ) : roundTo digits x = onGrid roundEven (1 / 10 ^ digits) x := by
  rw [roundTo, onGrid, div_div_eq_mul_div, div_one, mul_one_div]

theorem roundTo_mono (digits : Nat) : Monotone (roundTo digits) := by
  intro x y ordered
  rw [roundTo_eq, roundTo_eq]
  exact onGrid_mono roundEven_nearest (by positivity) ordered

end FlightHub.Python
