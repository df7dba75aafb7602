import Mathlib.Algebra.Order.Ring.Defs
import Mathlib.Algebra.Order.Ring.Cast
import Mathlib.Data.List.Pairwise
import Mathlib.Tactic.Linarith
import Mathlib.Tactic.Ring

/-! Points in order, each at least a gap after the one before, and how many of
them a window can hold. -/
namespace Numeric
variable {K : Type*} [CommRing K] [LinearOrder K] [IsStrictOrderedRing K]
  {gap first last : K} {points : List K}

def Spaced (gap : K) (points : List K) : Prop :=
  points.Pairwise fun earlier later => earlier + gap ≤ later

omit [IsStrictOrderedRing K] in
theorem spaced_concat {point : K} : Spaced gap (points ++ [point]) ↔
    Spaced gap points ∧ ∀ earlier ∈ points, earlier + gap ≤ point := by
  simp [Spaced, List.pairwise_append]

/-- The last of several points is as many gaps after the first as lie between them. -/
theorem Spaced.span (spaced : Spaced gap points) {point : K} (after : ∀ p ∈ points, point + gap ≤ p)
    (start : first ≤ point) (bounded : ∀ p ∈ points, p ≤ last) (ends : point ≤ last) :
    first + points.length * gap ≤ last := by
  induction points generalizing point first with
  | nil =>
    rw [List.length_nil, Nat.cast_zero, zero_mul, add_zero]
    exact start.trans ends
  | cons p rest ih =>
    obtain ⟨later, spaced⟩ := List.pairwise_cons.mp spaced
    obtain ⟨top, bounded⟩ := List.forall_mem_cons.mp bounded
    have next : first + gap ≤ p := (add_le_add_left start gap).trans (after p List.mem_cons_self)
    have reached := ih spaced later next bounded top
    rw [List.length_cons, Nat.cast_add, Nat.cast_one]
    linarith

/-- A window holds at most one point more than gaps fit into it. -/
theorem Spaced.window (spaced : Spaced gap points) (order : first ≤ last) (positive : 0 ≤ gap) :
    ((points.filter fun p => first ≤ p ∧ p ≤ last).length : K) * gap ≤ last - first + gap := by
  have inside : ∀ p ∈ points.filter fun p => first ≤ p ∧ p ≤ last, first ≤ p ∧ p ≤ last := by
    intro p member
    exact of_decide_eq_true (List.mem_filter.mp member).2
  have kept : Spaced gap (points.filter fun p => first ≤ p ∧ p ≤ last) := spaced.filter _
  cases held : points.filter fun p => first ≤ p ∧ p ≤ last with
  | nil =>
    rw [List.length_nil, Nat.cast_zero, zero_mul]
    linarith
  | cons p rest =>
    rw [held] at inside kept
    obtain ⟨later, spaced⟩ := List.pairwise_cons.mp kept
    obtain ⟨⟨bottom, top⟩, inside⟩ := List.forall_mem_cons.mp inside
    have reached := Spaced.span spaced later bottom (fun q member => (inside q member).2) top
    rw [List.length_cons, Nat.cast_add, Nat.cast_one]
    linarith

end Numeric
