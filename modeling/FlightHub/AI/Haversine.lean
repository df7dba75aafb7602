import FlightHub.AI.Flags
import FlightHub.Geometry.GreatCircle
import Mathlib.Analysis.Real.Pi.Bounds

/-! `_haversine_km` of `ai/anomalies.py` in real arithmetic, and what the radius
check of the holding detector says of the positions, where the distances which
it computes are near the real ones. -/
namespace FlightHub.Anomalies
open Geometry Real

def earthRadiusKm : ℝ := 6371

noncomputable def radians (degrees : ℝ) : ℝ := degrees * (π / 180)

noncomputable def haversineKm (lat1 lon1 lat2 lon2 : ℝ) : ℝ :=
  let phi1 := radians lat1
  let phi2 := radians lat2
  let dphi := radians (lat2 - lat1)
  let dlambda := radians (lon2 - lon1)
  let a := sin (dphi / 2) ^ 2 + cos phi1 * cos phi2 * sin (dlambda / 2) ^ 2
  2 * earthRadiusKm * arcsin √a

section Distance
variable (lat1 lon1 lat2 lon2 : ℝ)

theorem radians_sub (degrees other : ℝ) : radians (degrees - other) = radians degrees - radians other :=
  sub_mul _ _ _

theorem haversineKm_eq : haversineKm lat1 lon1 lat2 lon2 =
    earthRadiusKm * centralAngle (radians lat1) (radians lon1) (radians lat2) (radians lon2) := by
  simp only [haversineKm, radians_sub, centralAngle_eq]
  ring

theorem haversineKm_comm : haversineKm lat1 lon1 lat2 lon2 = haversineKm lat2 lon2 lat1 lon1 := by
  rw [haversineKm_eq, haversineKm_eq, centralAngle_comm]

theorem haversineKm_triangle (lat3 lon3 : ℝ) : haversineKm lat1 lon1 lat3 lon3 ≤
    haversineKm lat1 lon1 lat2 lon2 + haversineKm lat2 lon2 lat3 lon3 := by
  rw [haversineKm_eq, haversineKm_eq, haversineKm_eq, ← mul_add]
  have radius : (0 : ℝ) ≤ earthRadiusKm := by norm_num [earthRadiusKm]
  exact mul_le_mul_of_nonneg_left (centralAngle_triangle _ _ _ _ _ _) radius

end Distance

/-! ### The radius check -/

section Radius
variable {computed : ℚ → ℚ → ℚ → ℚ → ℚ} {tolerance : ℝ} {points : List EnrichedFlight} {places : List (ℚ × ℚ)}

def centroid (places : List (ℚ × ℚ)) : ℚ × ℚ :=
  (Statistics.mean (places.map Prod.fst), Statistics.mean (places.map Prod.snd))

/-- The distance from the centroid, in real arithmetic. -/
noncomputable def offCentre (places : List (ℚ × ℚ)) (place : ℚ × ℚ) : ℝ :=
  haversineKm (centroid places).1 (centroid places).2 place.1 place.2

/-- The distances from the centroid are computed up to this error. -/
def Accurate (computed : ℚ → ℚ → ℚ → ℚ → ℚ) (tolerance : ℝ) (places : List (ℚ × ℚ)) : Prop :=
  ∀ place ∈ places, |(computed (centroid places).1 (centroid places).2 place.1 place.2 : ℝ) -
    offCentre places place| ≤ tolerance

theorem maxRadius_le_iff (some_place : places ≠ []) (radius : ℚ) : maxRadius computed places ≤ radius ↔
    ∀ place ∈ places, computed (centroid places).1 (centroid places).2 place.1 place.2 ≤ radius := by
  have distances : places.map (fun place =>
      computed (centroid places).1 (centroid places).2 place.1 place.2) ≠ [] := by simpa using some_place
  obtain ⟨greatest, largest⟩ := Option.ne_none_iff_exists'.mp (mt List.max?_eq_none_iff.mp distances)
  have same : maxRadius computed places = greatest := by
    rw [maxRadius, maximum_eq]
    exact congrArg (Option.getD · 0) largest
  rw [same, List.max?_le_iff largest]
  exact List.forall_mem_map

theorem haversineKm_le_offCentre (places : List (ℚ × ℚ)) (place other : ℚ × ℚ) :
    haversineKm place.1 place.2 other.1 other.2 ≤ offCentre places place + offCentre places other := by
  have through := haversineKm_triangle place.1 place.2 (centroid places).1 (centroid places).2 other.1 other.2
  rw [haversineKm_comm place.1 place.2 (centroid places).1] at through
  exact through

theorem Accurate.offCentre_le (accurate : Accurate computed tolerance places) {place : ℚ × ℚ}
    (member : place ∈ places)
    (near : computed (centroid places).1 (centroid places).2 place.1 place.2 ≤ holdingMaxRadiusKm) :
    offCentre places place ≤ 15 + tolerance := by
  have close := (abs_le.mp (accurate place member)).1
  have small : (computed (centroid places).1 (centroid places).2 place.1 place.2 : ℝ) ≤ 15 := by
    exact_mod_cast near
  linarith

theorem Accurate.computed_le (accurate : Accurate computed tolerance places) {place : ℚ × ℚ}
    (member : place ∈ places) (near : offCentre places place ≤ 15 - tolerance) :
    computed (centroid places).1 (centroid places).2 place.1 place.2 ≤ holdingMaxRadiusKm := by
  have close := (abs_le.mp (accurate place member)).2
  have small : (computed (centroid places).1 (centroid places).2 place.1 place.2 : ℝ) ≤ 15 := by linarith
  exact_mod_cast small

/-- Every two positions of a flagged pattern are near one another, and turns whose
positions are well within the radius are flagged, however many the positions are. -/
theorem holding_contained (icao24 : String) (callsign : Option String)
    (accurate : Accurate computed tolerance (coords points)) :
    (∀ flag, detectHoldingPattern computed icao24 callsign points = some flag →
      ∀ place ∈ coords points, ∀ other ∈ coords points,
        haversineKm place.1 place.2 other.1 other.2 ≤ 2 * (15 + tolerance)) ∧
    (holdingMinPoints ≤ (coords points).length → holdingMinPoints ≤ (tracks points).length →
      holdingMinTrackStddevDeg ^ 2 ≤ Statistics.variance (tracks points) →
        (∀ place ∈ coords points, offCentre (coords points) place ≤ 15 - tolerance) →
          (detectHoldingPattern computed icao24 callsign points).isSome = true) := by
  have nonempty (positions : holdingMinPoints ≤ (coords points).length) : coords points ≠ [] :=
    List.ne_nil_of_length_pos (Nat.lt_of_lt_of_le (by decide) positions)
  constructor
  · intro flag flagged place here other there
    rcases detectHoldingPattern_spec computed icao24 callsign points with ⟨holding, -⟩ | ⟨-, silent⟩
    · have within := (maxRadius_le_iff (nonempty holding.positions) _).mp holding.near
      have first := accurate.offCentre_le here (within place here)
      have second := accurate.offCentre_le there (within other there)
      linarith [haversineKm_le_offCentre (coords points) place other]
    · rw [silent] at flagged
      cases flagged
  · intro positions headings turning within
    have near : maxRadius computed (coords points) ≤ holdingMaxRadiusKm :=
      (maxRadius_le_iff (nonempty positions) _).mpr fun place member =>
        accurate.computed_le member (within place member)
    rcases detectHoldingPattern_spec computed icao24 callsign points with ⟨-, flag, found, -⟩ | ⟨straight, -⟩
    · rw [found]
      rfl
    · exact absurd ⟨positions, headings, near, turning⟩ straight

end Radius

/-! ### Four positions around a point of the equator -/

section Circle

theorem arcsin_sqrt_sin_sq {θ : ℝ} (small : |θ| ≤ π / 2) : arcsin √(sin θ ^ 2) = |θ| := by
  rw [sqrt_sq_eq_abs]
  rcases le_total 0 θ with forward | back
  · rw [abs_of_nonneg forward] at small ⊢
    rw [abs_of_nonneg (sin_nonneg_of_nonneg_of_le_pi forward (by linarith [pi_pos]))]
    exact arcsin_sin (by linarith [pi_pos]) small
  · rw [abs_of_nonpos back] at small ⊢
    rw [abs_of_nonpos (sin_nonpos_of_nonpos_of_neg_pi_le back (by linarith [pi_pos])), ← sin_neg]
    exact arcsin_sin (by linarith [pi_pos]) small

theorem radians_half_le {degrees : ℝ} (small : |degrees| ≤ 180) : |radians degrees / 2| ≤ π / 2 := by
  have positive := pi_pos
  rw [radians, abs_div, abs_mul, abs_of_pos (by positivity : 0 < π / 180),
    abs_of_pos (by norm_num : (0 : ℝ) < 2)]
  nlinarith

/-- Along a meridian the distance is that of the arc. -/
theorem haversineKm_meridian {lat1 lat2 : ℝ} (lon : ℝ) (small : |lat2 - lat1| ≤ 180) :
    haversineKm lat1 lon lat2 lon = earthRadiusKm * |radians (lat2 - lat1)| := by
  have arc : sin (radians (lat2 - lat1) / 2) ^ 2 + cos (radians lat1) * cos (radians lat2) *
      sin (radians (lon - lon) / 2) ^ 2 = sin (radians (lat2 - lat1) / 2) ^ 2 := by simp [radians]
  simp only [haversineKm, arc, arcsin_sqrt_sin_sq (radians_half_le small), abs_div, abs_two]
  ring

theorem haversineKm_equator {lon1 lon2 : ℝ} (small : |lon2 - lon1| ≤ 180) :
    haversineKm 0 lon1 0 lon2 = earthRadiusKm * |radians (lon2 - lon1)| := by
  have arc : sin (radians (0 - 0) / 2) ^ 2 + cos (radians 0) * cos (radians 0) *
      sin (radians (lon2 - lon1) / 2) ^ 2 = sin (radians (lon2 - lon1) / 2) ^ 2 := by simp [radians]
  simp only [haversineKm, arc, arcsin_sqrt_sin_sq (radians_half_le small), abs_div, abs_two]
  ring

def circling : List EnrichedFlight :=
  [((1 / 10, 0), 90), ((0, 1 / 20), 180), ((-1 / 10, 0), 270), ((0, -1 / 20), 0)].map
    fun (point : (ℚ × ℚ) × ℚ) => {
      icao24 := "738065", originCountry := "Israel", latitude := some point.1.1, longitude := some point.1.2
      trueTrack := some point.2, fetchedAt := ⟨1735403700000000, by decide, by decide⟩ }

/-- 111.195 km to the degree. -/
def flatKm (lat1 lon1 lat2 lon2 : ℚ) : ℚ := 22239 / 200 * (|lat2 - lat1| + |lon2 - lon1|)

theorem abs_cast_le {degrees : ℚ} (small : |degrees| ≤ 1 / 10) : |(degrees : ℝ)| ≤ 1 / 10 := by
  have cast : ((|degrees| : ℚ) : ℝ) ≤ ((1 / 10 : ℚ) : ℝ) := Rat.cast_le.mpr small
  push_cast at cast
  exact cast

theorem degree_near {degrees : ℚ} (small : |degrees| ≤ 1 / 10) :
    |(22239 / 200 * |degrees| : ℚ) - earthRadiusKm * (|radians degrees|)| ≤ 1 / 1000 := by
  have low := pi_gt_d6
  have high := pi_lt_d6
  have short := abs_cast_le small
  have forward := abs_nonneg (degrees : ℝ)
  have same : (22239 / 200 * |degrees| : ℚ) - earthRadiusKm * |radians degrees| =
      (22239 / 200 - 6371 * (π / 180)) * |(degrees : ℝ)| := by
    rw [radians, abs_mul, abs_of_pos (by positivity : 0 < π / 180), earthRadiusKm]
    push_cast
    ring
  rw [same, abs_mul, abs_abs]
  have close : |22239 / 200 - 6371 * (π / 180)| ≤ 1 / 100 := by
    rw [abs_le]
    constructor <;> linarith
  nlinarith [abs_nonneg (22239 / 200 - 6371 * (π / 180))]

theorem circling_centroid : centroid (coords circling) = (0, 0) := by decide +kernel

theorem circling_axes : ∀ place ∈ coords circling,
    place.2 = 0 ∧ |place.1| ≤ 1 / 10 ∨ place.1 = 0 ∧ |place.2| ≤ 1 / 10 := by decide +kernel

theorem abs_sub_zero_le {degrees : ℚ} (small : |degrees| ≤ 1 / 10) : |(degrees : ℝ) - (0 : ℚ)| ≤ 180 := by
  rw [Rat.cast_zero, sub_zero]
  exact (abs_cast_le small).trans (by norm_num)

theorem circling_accurate : Accurate flatKm (1 / 1000) (coords circling) := by
  intro place member
  rw [offCentre, circling_centroid, flatKm]
  obtain ⟨lat, lon⟩ := place
  rcases circling_axes _ member with ⟨same, small⟩ | ⟨same, small⟩
  · obtain rfl : lon = 0 := same
    rw [haversineKm_meridian _ (abs_sub_zero_le small)]
    simpa using degree_near small
  · obtain rfl : lat = 0 := same
    have equator := haversineKm_equator (abs_sub_zero_le small)
    simp only [Rat.cast_zero] at equator ⊢
    rw [equator]
    simpa using degree_near small

/-- The positions are 11 and 5.5 km from their centroid. -/
theorem holding_contained_circling : (detectHoldingPattern flatKm "738065" none circling).isSome = true ∧
    ∀ place ∈ coords circling, ∀ other ∈ coords circling,
      haversineKm place.1 place.2 other.1 other.2 ≤ 2 * (15 + 1 / 1000) := by
  obtain ⟨contained, complete⟩ := holding_contained "738065" none circling_accurate
  have flagged := complete (by decide +kernel) (by decide +kernel) (by decide +kernel) fun place member => by
    have accurate := (abs_le.mp (circling_accurate place member)).1
    have computed : ∀ place ∈ coords circling, flatKm (centroid (coords circling)).1 (centroid (coords circling)).2
        place.1 place.2 ≤ 12 := by decide +kernel
    have near : (flatKm (centroid (coords circling)).1 (centroid (coords circling)).2 place.1 place.2 : ℝ) ≤ 12 := by
      exact_mod_cast computed place member
    linarith
  obtain ⟨flag, found⟩ := Option.isSome_iff_exists.mp flagged
  exact ⟨flagged, contained flag found⟩

end Circle
end FlightHub.Anomalies
