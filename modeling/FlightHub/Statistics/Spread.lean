import Mathlib.Algebra.Order.BigOperators.Group.List
import Mathlib.Algebra.Order.Field.Basic
import Mathlib.Data.Rat.Floor
import Mathlib.Tactic.Ring

/-! The mean and the population variance of a finite sample over an ordered
field, its extremes, and numbers taken modulo a period. None of the figures
depends on the order of the sample, and the mean lies between its bounds. A
translation of the whole sample leaves its variance alone; taking it modulo the
period afterwards does so where all members lose the same number of periods. -/
namespace Statistics

section Sample
variable {K : Type*} [Field K]

def mean (sample : List K) : K := sample.sum / sample.length

def variance (sample : List K) : K := mean (sample.map fun x => (x - mean sample) ^ 2)

theorem sum_map_add (shift : K) (sample : List K) :
    (sample.map (· + shift)).sum = sample.sum + sample.length * shift := by
  induction sample with
  | nil => simp
  | cons x sample ih =>
    simp only [List.map_cons, List.sum_cons, List.length_cons, Nat.cast_add, Nat.cast_one, ih]
    ring

theorem mean_map_add [CharZero K] (shift : K) {sample : List K} (nonempty : sample ≠ []) :
    mean (sample.map (· + shift)) = mean sample + shift := by
  have positive : (sample.length : K) ≠ 0 := by
    simpa only [ne_eq, Nat.cast_eq_zero, List.length_eq_zero_iff] using nonempty
  rw [mean, sum_map_add, List.length_map, add_div, mul_div_cancel_left₀ shift positive, mean]

theorem variance_map_add [CharZero K] (shift : K) (sample : List K) :
    variance (sample.map (· + shift)) = variance sample := by
  by_cases empty : sample = []
  · rw [empty, List.map_nil]
  · rw [variance, variance, mean_map_add shift empty, List.map_map]
    congr 2
    funext x
    simp only [Function.comp_apply, add_sub_add_right_eq_sub]

theorem mean_perm {sample other : List K} (same : sample.Perm other) : mean sample = mean other := by
  rw [mean, mean, same.sum_eq, same.length_eq]

theorem variance_perm {sample other : List K} (same : sample.Perm other) :
    variance sample = variance other := by
  rw [variance, variance, mean_perm same]
  exact mean_perm (same.map _)

end Sample

theorem max?_perm {K : Type*} [LinearOrder K] {sample other : List K} (same : sample.Perm other) :
    sample.max? = other.max? := by
  apply Option.ext
  intro greatest
  rw [List.max?_eq_some_iff, List.max?_eq_some_iff]
  simp only [same.mem_iff]

section Bounds
variable {K : Type*} [Field K] [LinearOrder K] [IsStrictOrderedRing K] {sample : List K}

/-- The mean of a sample is no less than any bound of its members. -/
theorem le_mean {low : K} (nonempty : sample ≠ []) (above : ∀ x ∈ sample, low ≤ x) :
    low ≤ mean sample := by
  have positive : (0 : K) < sample.length := by
    exact_mod_cast List.length_pos_iff.mpr nonempty
  rw [mean, le_div_iff₀ positive, mul_comm, ← nsmul_eq_mul]
  exact List.card_nsmul_le_sum sample low above

theorem mean_le {high : K} (nonempty : sample ≠ []) (below : ∀ x ∈ sample, x ≤ high) :
    mean sample ≤ high := by
  have positive : (0 : K) < sample.length := by
    exact_mod_cast List.length_pos_iff.mpr nonempty
  rw [mean, div_le_iff₀ positive, mul_comm, ← nsmul_eq_mul]
  exact List.sum_le_card_nsmul sample high below

end Bounds

section Circle
variable {K : Type*} [Field K] [CharZero K] [LinearOrder K] [FloorRing K]

/-- How many whole periods lie below `x`. -/
def turns (period x : K) : Int := ⌊x / period⌋

/-- `x % period`. -/
def modulo (period x : K) : K := x - turns period x * period

/-- The spread after a turn is that of the members without the periods each loses. -/
theorem variance_map_modulo (period shift : K) (sample : List K) :
    variance (sample.map fun x => modulo period (x + shift)) =
      variance (sample.map fun x => x - turns period (x + shift) * period) := by
  rw [← variance_map_add shift (sample.map fun x => x - turns period (x + shift) * period),
    List.map_map]
  congr 2
  funext x
  simp only [modulo, Function.comp_apply]
  ring

theorem variance_map_modulo_of_together {period shift : K} {sample : List K} {lost : Int}
    (together : ∀ x ∈ sample, turns period (x + shift) = lost) :
    variance (sample.map fun x => modulo period (x + shift)) = variance sample := by
  have moved : (sample.map fun x => modulo period (x + shift)) =
      sample.map (· + (shift - lost * period)) := by
    apply List.map_congr_left
    intro x member
    rw [modulo, together x member]
    ring
  rw [moved, variance_map_add]

end Circle

end Statistics
