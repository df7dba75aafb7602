import FlightHub.Common.Models
import FlightHub.Statistics.Spread

/-! The holding-pattern detector of `ai/anomalies.py`, in exact arithmetic and
over any distance function. It compares headings with the linear deviation of
their values, so its answer depends on which of them a rotation takes past
north; what it does depend on, and where it does not, is stated for every list
of points and every rotation. The order of the points does not count, and those
on the ground do not either. -/
namespace FlightHub
open Python

namespace Anomalies

def holdingMaxRadiusKm : ℚ := 15
def holdingMinTrackStddevDeg : ℚ := 60
def holdingMinPoints : Nat := 4

structure AnomalyFlag where
  icao24 : String
  callsign : Option String := none
  kind : String
  detail : String
deriving DecidableEq

/-- `max` of some distances, of which there is at least one. -/
def maximum : List ℚ → ℚ
  | [] => 0
  | first :: rest => rest.foldl max first

def airborne (points : List EnrichedFlight) : List EnrichedFlight := points.filter fun p => !p.onGround

def coords (points : List EnrichedFlight) : List (ℚ × ℚ) := (airborne points).filterMap fun p =>
  p.latitude.bind fun latitude => p.longitude.map fun longitude => (latitude, longitude)

def tracks (points : List EnrichedFlight) : List ℚ := (airborne points).filterMap (·.trueTrack)

def maxRadius (haversineKm : ℚ → ℚ → ℚ → ℚ → ℚ) (coords : List (ℚ × ℚ)) : ℚ :=
  let latCentroid := Statistics.mean (coords.map Prod.fst)
  let lonCentroid := Statistics.mean (coords.map Prod.snd)
  maximum (coords.map fun place => haversineKm latCentroid lonCentroid place.1 place.2)

/-- The deviation is the square root of the variance: it is compared by its
square, and rounded in the text. -/
def detectHoldingPattern (haversineKm : ℚ → ℚ → ℚ → ℚ → ℚ) (icao24 : String)
    (callsign : Option String) (points : List EnrichedFlight) : Option AnomalyFlag :=
  let coords := coords points
  let tracks := tracks points
  if coords.length < holdingMinPoints || tracks.length < holdingMinPoints then none
  else
    let maxRadius := maxRadius haversineKm coords
    let trackVariance := Statistics.variance tracks
    if maxRadius ≤ holdingMaxRadiusKm ∧ holdingMinTrackStddevDeg ^ 2 ≤ trackVariance then
      some {
        icao24, callsign
        kind := "possible_holding_pattern"
        detail :=
          s!"Stayed within {formatFixed 1 maxRadius}km over {coords.length} recent positions " ++
          s!"with heading varying by {roundSqrt trackVariance} deg (stddev)" }
    else none

section Headings
variable {haversineKm : ℚ → ℚ → ℚ → ℚ → ℚ} {icao24 : String} {callsign : Option String}
  {points : List EnrichedFlight} {f g : ℚ → ℚ}

/-- The same points under other headings. -/
def mapTracks (f : ℚ → ℚ) (points : List EnrichedFlight) : List EnrichedFlight :=
  points.map fun p => { p with trueTrack := p.trueTrack.map f }

theorem airborne_mapTracks : airborne (mapTracks f points) = mapTracks f (airborne points) := by
  simp only [airborne, mapTracks, List.filter_map]
  rfl

@[simp] theorem coords_mapTracks : coords (mapTracks f points) = coords points := by
  rw [coords, airborne_mapTracks, mapTracks, List.filterMap_map]
  rfl

@[simp] theorem tracks_mapTracks : tracks (mapTracks f points) = (tracks points).map f := by
  rw [tracks, airborne_mapTracks, mapTracks, List.filterMap_map, tracks, List.map_filterMap]
  rfl

/-- Of the headings only their number and their variance count. -/
theorem detect_mapTracks_congr
    (spread : Statistics.variance ((tracks points).map f) = Statistics.variance ((tracks points).map g)) :
    detectHoldingPattern haversineKm icao24 callsign (mapTracks f points) =
      detectHoldingPattern haversineKm icao24 callsign (mapTracks g points) := by
  simp only [detectHoldingPattern, coords_mapTracks, tracks_mapTracks, List.length_map, spread]

theorem detect_mapTracks_of_variance
    (spread : Statistics.variance ((tracks points).map f) = Statistics.variance (tracks points)) :
    detectHoldingPattern haversineKm icao24 callsign (mapTracks f points) =
      detectHoldingPattern haversineKm icao24 callsign points := by
  simp only [detectHoldingPattern, coords_mapTracks, tracks_mapTracks, List.length_map, spread]

end Headings

/-- `(h + c) % 360`. -/
def rotate (c h : ℚ) : ℚ := Statistics.modulo 360 (h + c)

/-- How often a rotation takes a heading past north. -/
def passes (c h : ℚ) : Int := Statistics.turns 360 (h + c)

/-- After a rotation the answer is that for the headings less a full turn for
each time they pass north; so a rotation which takes all of them past north
equally often changes neither the answer nor its text. -/
theorem rotation_counts_passes (haversineKm : ℚ → ℚ → ℚ → ℚ → ℚ) (icao24 : String)
    (callsign : Option String) (points : List EnrichedFlight) (c : ℚ) :
    detectHoldingPattern haversineKm icao24 callsign (mapTracks (rotate c) points) =
      detectHoldingPattern haversineKm icao24 callsign
        (mapTracks (fun h => h - passes c h * 360) points) ∧
    ((∀ h ∈ tracks points, ∀ other ∈ tracks points, passes c h = passes c other) →
      detectHoldingPattern haversineKm icao24 callsign (mapTracks (rotate c) points) =
        detectHoldingPattern haversineKm icao24 callsign points) := by
  constructor
  · apply detect_mapTracks_congr
    exact Statistics.variance_map_modulo 360 c (tracks points)
  · intro together
    apply detect_mapTracks_of_variance
    cases headings : tracks points with
    | nil => rfl
    | cons first rest =>
      rw [headings] at together
      apply Statistics.variance_map_modulo_of_together
      intro h member
      exact together h member first List.mem_cons_self

/-- One place, passed under each of the headings. -/
def passing (headings : List ℚ) : List EnrichedFlight := headings.map fun h => {
  icao24 := "738065", originCountry := "Israel", latitude := some 48, longitude := some 11
  trueTrack := some h, fetchedAt := ⟨1735403600000000, by decide, by decide⟩ }

/-- A circling aircraft is flagged, and is flagged with the same text under headings which
have all been taken past north. -/
theorem rotation_counts_passes_circling :
    (detectHoldingPattern (fun _ _ _ _ => 0) "738065" none (passing [100, 190, 250, 350])).isSome = true ∧
    passes 300 100 = 1 ∧ passes 300 350 = 1 ∧
    detectHoldingPattern (fun _ _ _ _ => 0) "738065" none
        (mapTracks (rotate 300) (passing [100, 190, 250, 350])) =
      detectHoldingPattern (fun _ _ _ _ => 0) "738065" none (passing [100, 190, 250, 350]) := by
  refine ⟨by decide +kernel, by decide +kernel, by decide +kernel, ?_⟩
  apply (rotation_counts_passes _ _ _ _ _).2
  decide +kernel

/-- A straight northbound flight is a holding pattern, and is none once rotated by 20 degrees. -/
theorem northbound_holds :
    ¬ ∀ (haversineKm : ℚ → ℚ → ℚ → ℚ → ℚ) icao24 callsign points c,
      (∀ p ∈ points, ∀ h, p.trueTrack = some h → 0 ≤ h ∧ h < 360) →
      (detectHoldingPattern haversineKm icao24 callsign (mapTracks (rotate c) points)).isSome =
        (detectHoldingPattern haversineKm icao24 callsign points).isSome := by
  intro invariant
  have headings : ∀ p ∈ passing [350, 355, 5, 10], ∀ h, p.trueTrack = some h → 0 ≤ h ∧ h < 360 := by
    intro p member h heading
    simp only [passing, List.map_cons, List.map_nil, List.mem_cons, List.not_mem_nil] at member
    rcases member with rfl | rfl | rfl | rfl | member
    all_goals first
      | exact member.elim
      | cases heading; norm_num
  have same := invariant (fun _ _ _ _ => 0) "738065" none (passing [350, 355, 5, 10]) 20 headings
  revert same
  decide +kernel

/-! ### The order of the points -/

section Order
variable {haversineKm : ℚ → ℚ → ℚ → ℚ → ℚ} {icao24 : String} {callsign : Option String}
  {points other : List EnrichedFlight}

theorem maximum_eq (distances : List ℚ) : maximum distances = distances.max?.getD 0 := by
  cases distances <;> rfl

theorem maxRadius_perm {places others : List (ℚ × ℚ)} (same : places.Perm others) :
    maxRadius haversineKm places = maxRadius haversineKm others := by
  have latitudes := Statistics.mean_perm (same.map Prod.fst)
  have longitudes := Statistics.mean_perm (same.map Prod.snd)
  simp only [maxRadius, latitudes, longitudes, maximum_eq]
  rw [Statistics.max?_perm (same.map _)]

/-- Of the points only the places and the headings count, in any order. -/
theorem detect_congr (places : (coords points).Perm (coords other))
    (headings : (tracks points).Perm (tracks other)) :
    detectHoldingPattern haversineKm icao24 callsign points =
      detectHoldingPattern haversineKm icao24 callsign other := by
  simp only [detectHoldingPattern, places.length_eq, headings.length_eq, maxRadius_perm places,
    Statistics.variance_perm headings]

theorem detect_perm (same : points.Perm other) :
    detectHoldingPattern haversineKm icao24 callsign points =
      detectHoldingPattern haversineKm icao24 callsign other := by
  have aloft : (airborne points).Perm (airborne other) := same.filter _
  exact detect_congr (aloft.filterMap _) (aloft.filterMap _)

/-- The second list is the first with points on the ground inserted. -/
inductive Grounded : List EnrichedFlight → List EnrichedFlight → Prop where
  | nil : Grounded [] []
  | keep (p : EnrichedFlight) {points extended : List EnrichedFlight} (rest : Grounded points extended) :
      Grounded (p :: points) (p :: extended)
  | insert (p : EnrichedFlight) {points extended : List EnrichedFlight} (ground : p.onGround = true)
      (rest : Grounded points extended) : Grounded points (p :: extended)

theorem Grounded.airborne_eq {extended : List EnrichedFlight} (grounded : Grounded points extended) :
    airborne extended = airborne points := by
  induction grounded with
  | nil => rfl
  | keep p rest ih => rw [airborne, List.filter_cons, ← airborne, ih, airborne, airborne, List.filter_cons]
  | insert p ground rest ih =>
    rw [airborne, List.filter_cons_of_neg (by simp [ground]), ← airborne, ih]

theorem detect_grounded {extended : List EnrichedFlight} (grounded : Grounded points extended) :
    detectHoldingPattern haversineKm icao24 callsign extended =
      detectHoldingPattern haversineKm icao24 callsign points := by
  have places : coords extended = coords points := by
    rw [coords, grounded.airborne_eq, coords]
  have headings : tracks extended = tracks points := by
    rw [tracks, grounded.airborne_eq, tracks]
  exact detect_congr (.of_eq places) (.of_eq headings)

end Order

/-- Neither the order of the points nor the points on the ground change the answer. -/
theorem holding_ignores_order (haversineKm : ℚ → ℚ → ℚ → ℚ → ℚ) (icao24 : String)
    (callsign : Option String) (points : List EnrichedFlight) :
    (∀ other, points.Perm other → detectHoldingPattern haversineKm icao24 callsign other =
      detectHoldingPattern haversineKm icao24 callsign points) ∧
    ∀ extended, Grounded points extended → detectHoldingPattern haversineKm icao24 callsign extended =
      detectHoldingPattern haversineKm icao24 callsign points := by
  constructor
  · intro other same
    exact (detect_perm same).symm
  · intro extended grounded
    exact detect_grounded grounded

/-- A parked aircraft among the points of a circling one. -/
def parked : EnrichedFlight where
  icao24 := "738065"
  originCountry := "Israel"
  onGround := true
  fetchedAt := ⟨1735403600000000, by decide, by decide⟩

theorem holding_ignores_order_circling :
    (detectHoldingPattern (fun _ _ _ _ => 0) "738065" none (passing [0, 90, 180, 270])).isSome = true ∧
    detectHoldingPattern (fun _ _ _ _ => 0) "738065" none (passing [180, 270, 0, 90]) =
      detectHoldingPattern (fun _ _ _ _ => 0) "738065" none (passing [0, 90, 180, 270]) ∧
    detectHoldingPattern (fun _ _ _ _ => 0) "738065" none (parked :: passing [0, 90, 180, 270]) =
      detectHoldingPattern (fun _ _ _ _ => 0) "738065" none (passing [0, 90, 180, 270]) := by
  refine ⟨by decide +kernel, ?_, ?_⟩
  · apply (holding_ignores_order _ _ _ _).1
    exact List.Perm.map _ (by decide)
  · apply (holding_ignores_order _ _ _ _).2
    exact .insert parked rfl (.keep _ (.keep _ (.keep _ (.keep _ .nil))))

end Anomalies
end FlightHub
