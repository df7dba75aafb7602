import Mathlib.Analysis.InnerProductSpace.PiL2
import Mathlib.Analysis.SpecialFunctions.Trigonometric.Inverse
import Mathlib.Geometry.Euclidean.Angle.Unoriented.TriangleInequality

/-! Great-circle angles, between the directions of two positions, and the haversine
formula for them. Latitudes and longitudes are in radians. -/
namespace Geometry
open Real

-- The numerals of the positions, and of the definitions over them, share this proof.
scoped instance two_atLeastTwo : Nat.AtLeastTwo (nat_lit 2) := ⟨le_refl _⟩

/-- The direction of a position from the centre of the sphere. -/
noncomputable def direction (lat lon : ℝ) : EuclideanSpace ℝ (Fin 3) :=
  !₂[cos lat * cos lon, cos lat * sin lon, sin lat]

noncomputable def centralAngle (lat lon lat' lon' : ℝ) : ℝ :=
  InnerProductGeometry.angle (direction lat lon) (direction lat' lon')

variable (lat lon lat' lon' : ℝ)

theorem inner_direction : inner ℝ (direction lat lon) (direction lat' lon') =
    cos lat * cos lat' * cos (lon' - lon) + sin lat * sin lat' := by
  simp only [direction, PiLp.inner_apply, Fin.sum_univ_three, RCLike.inner_apply, conj_trivial, cos_sub]
  simp
  ring

theorem norm_direction : ‖direction lat lon‖ = 1 := by
  have square : ‖direction lat lon‖ ^ 2 = 1 := by
    rw [← real_inner_self_eq_norm_sq, inner_direction, sub_self, cos_zero, mul_one]
    linear_combination cos_sq_add_sin_sq lat
  exact (pow_eq_one_iff_of_nonneg (norm_nonneg _) two_ne_zero).mp square

theorem cos_centralAngle : cos (centralAngle lat lon lat' lon') =
    cos lat * cos lat' * cos (lon' - lon) + sin lat * sin lat' := by
  rw [centralAngle, InnerProductGeometry.cos_angle, norm_direction, norm_direction, mul_one, div_one,
    inner_direction]

/-- The haversine of the angle, which is the square of the sine of its half. -/
theorem haversine_eq :
    sin ((lat' - lat) / 2) ^ 2 + cos lat * cos lat' * sin ((lon' - lon) / 2) ^ 2 =
      sin (centralAngle lat lon lat' lon' / 2) ^ 2 := by
  have half (x : ℝ) : sin (x / 2) ^ 2 = (1 - cos x) / 2 := by
    rw [sin_sq_eq_half_sub]
    ring_nf
  rw [half, half, half, cos_centralAngle, cos_sub lat' lat]
  ring

/-- The haversine formula: it asks for no root of a negative number, and for no
arcsine of a number above one. -/
theorem centralAngle_eq : centralAngle lat lon lat' lon' = 2 * arcsin
    √(sin ((lat' - lat) / 2) ^ 2 + cos lat * cos lat' * sin ((lon' - lon) / 2) ^ 2) := by
  have nonneg := InnerProductGeometry.angle_nonneg (direction lat lon) (direction lat' lon')
  have bound := InnerProductGeometry.angle_le_pi (direction lat lon) (direction lat' lon')
  have half : arcsin (sin (centralAngle lat lon lat' lon' / 2)) = centralAngle lat lon lat' lon' / 2 := by
    apply arcsin_sin
    · unfold centralAngle
      linarith [pi_pos]
    · unfold centralAngle
      linarith
  have sine : 0 ≤ sin (centralAngle lat lon lat' lon' / 2) := by
    apply sin_nonneg_of_nonneg_of_le_pi
    · unfold centralAngle
      linarith
    · unfold centralAngle
      linarith [pi_pos]
  rw [haversine_eq, sqrt_sq sine, half]
  ring

theorem centralAngle_comm : centralAngle lat lon lat' lon' = centralAngle lat' lon' lat lon :=
  InnerProductGeometry.angle_comm _ _

theorem centralAngle_triangle (lat'' lon'' : ℝ) : centralAngle lat lon lat'' lon'' ≤
    centralAngle lat lon lat' lon' + centralAngle lat' lon' lat'' lon'' :=
  InnerProductGeometry.angle_le_angle_add_angle _ _ _

end Geometry
