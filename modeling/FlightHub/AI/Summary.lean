import FlightHub.Common.Models
import FlightHub.Common.Rounding
import FlightHub.Statistics.Spread

/-! The figures of the situational summary, `ai/summary.py`, in exact arithmetic.
Rounding to one decimal is monotone, so what orders the figures before it orders
them after it. -/
namespace FlightHub
open Python

namespace Summary

def lowAltitudeM : ℚ := 1000

def systemPrompt : String :=
  "You are an aviation operations assistant producing a short situational " ++
  "summary for a live air-traffic dashboard covering the airspace near " ++
  "Israel. You will be given pre-computed statistics as JSON. Write 2-4 " ++
  "concise sentences in plain English. Use only the numbers provided — " ++
  "never invent or estimate a figure that isn't in the JSON. No markdown, " ++
  "no headers, just prose."

/-- The dict of `_compute_stats`. -/
structure Stats where
  totalTracked : Nat
  airborne : Nat
  onGround : Nat
  lowAltitudeAirborneCount : Nat
  lowAltitudeThresholdM : ℚ
  avgVelocityMs : Option ℚ
  avgTemperatureC : Option ℚ
  avgWindSpeedKmh : Option ℚ
  maxWindSpeedKmh : Option ℚ
deriving DecidableEq

def airborne (flights : List EnrichedFlight) : List EnrichedFlight := flights.filter fun f => !f.onGround

def onGround (flights : List EnrichedFlight) : List EnrichedFlight := flights.filter (·.onGround)

def lowAltitude (flights : List EnrichedFlight) : List EnrichedFlight :=
  (airborne flights).filter fun f => f.baroAltitude.any (· < lowAltitudeM)

def velocities (flights : List EnrichedFlight) : List ℚ := (airborne flights).filterMap (·.velocity)

def temperatures (flights : List EnrichedFlight) : List ℚ := flights.filterMap (·.weatherTemperatureC)

def windSpeeds (flights : List EnrichedFlight) : List ℚ := flights.filterMap (·.weatherWindSpeedKmh)

/-- `round(statistics.mean(values), 1) if values else None`. -/
def average (values : List ℚ) : Option ℚ :=
  if values.isEmpty then none else some (roundTo 1 (Statistics.mean values))

def computeStats (flights : List EnrichedFlight) : Stats where
  totalTracked := flights.length
  airborne := (airborne flights).length
  onGround := (onGround flights).length
  lowAltitudeAirborneCount := (lowAltitude flights).length
  lowAltitudeThresholdM := lowAltitudeM
  avgVelocityMs := average (velocities flights)
  avgTemperatureC := average (temperatures flights)
  avgWindSpeedKmh := average (windSpeeds flights)
  maxWindSpeedKmh := (windSpeeds flights).max?.map (roundTo 1)

/-- `dumps` is `json.dumps` of the figures, and `complete` the provider. -/
def generateSituationalSummary (dumps : Stats → String)
    (complete : String → Option String → Except Exception String) (flights : List EnrichedFlight) :
    Except Exception String :=
  if flights.isEmpty then .ok "No aircraft are currently tracked in the monitored airspace."
  else complete s!"Current statistics:\n{dumps (computeStats flights)}" (some systemPrompt)

section Figures
variable {values : List ℚ} {flights other : List EnrichedFlight} {contribution : EnrichedFlight → Option ℚ}

theorem average_eq_none_iff : average values = none ↔ values = [] := by
  cases values <;> simp [average]

theorem average_cons (value : ℚ) (values : List ℚ) :
    average (value :: values) = some (roundTo 1 (Statistics.mean (value :: values))) := rfl

theorem average_between {least greatest figure : ℚ} (present : average values = some figure)
    (bounds : ∀ value ∈ values, least ≤ value ∧ value ≤ greatest) :
    roundTo 1 least ≤ figure ∧ figure ≤ roundTo 1 greatest := by
  cases values with
  | nil => cases present
  | cons value values =>
    rw [average_cons] at present
    obtain rfl := Option.some.inj present
    have nonempty : value :: values ≠ [] := List.cons_ne_nil _ _
    constructor
    · exact roundTo_mono 1 (Statistics.le_mean nonempty fun value member => (bounds value member).1)
    · exact roundTo_mono 1 (Statistics.mean_le nonempty fun value member => (bounds value member).2)

theorem average_perm {others : List ℚ} (same : values.Perm others) : average values = average others := by
  rw [average, average, same.isEmpty_eq, Statistics.mean_perm same]

/-- A figure of the values which the flights contribute: it is missing when there
are none, and lies between their rounded extremes otherwise. -/
structure Averages (contribution : EnrichedFlight → Option ℚ) (flights : List EnrichedFlight)
    (figure : Option ℚ) : Prop where
  missing : figure = none ↔ ∀ f ∈ flights, contribution f = none
  between : ∀ average, figure = some average → ∃ least greatest,
    (∃ f ∈ flights, contribution f = some least) ∧ (∃ f ∈ flights, contribution f = some greatest) ∧
      (∀ f ∈ flights, ∀ value, contribution f = some value → least ≤ value ∧ value ≤ greatest) ∧
        roundTo 1 least ≤ average ∧ average ≤ roundTo 1 greatest

theorem exists_extremes (nonempty : values ≠ []) :
    ∃ least ∈ values, ∃ greatest ∈ values, ∀ value ∈ values, least ≤ value ∧ value ≤ greatest := by
  obtain ⟨least, smallest⟩ := Option.ne_none_iff_exists'.mp (mt List.min?_eq_none_iff.mp nonempty)
  obtain ⟨greatest, largest⟩ := Option.ne_none_iff_exists'.mp (mt List.max?_eq_none_iff.mp nonempty)
  obtain ⟨low_member, low⟩ := List.min?_eq_some_iff.mp smallest
  obtain ⟨high_member, high⟩ := List.max?_eq_some_iff.mp largest
  exact ⟨least, low_member, greatest, high_member, fun value member => ⟨low value member, high value member⟩⟩

theorem averages_filterMap (contribution : EnrichedFlight → Option ℚ) (flights : List EnrichedFlight) :
    Averages contribution flights (average (flights.filterMap contribution)) where
  missing := by rw [average_eq_none_iff, List.filterMap_eq_nil_iff]
  between figure present := by
    have nonempty : flights.filterMap contribution ≠ [] := by
      intro empty
      rw [empty] at present
      cases present
    obtain ⟨least, low_member, greatest, high_member, bounds⟩ := exists_extremes nonempty
    refine ⟨least, greatest, List.mem_filterMap.mp low_member, List.mem_filterMap.mp high_member, ?_, ?_⟩
    · intro f member value contributed
      exact bounds value (List.mem_filterMap.mpr ⟨f, member, contributed⟩)
    · exact average_between present bounds

/-- The velocity of an airborne flight. -/
def airborneVelocity (f : EnrichedFlight) : Option ℚ := if f.onGround then none else f.velocity

theorem velocities_eq (flights : List EnrichedFlight) :
    velocities flights = flights.filterMap airborneVelocity := by
  rw [velocities, airborne, List.filterMap_filter]
  congr 1
  funext f
  cases ground : f.onGround <;> simp [airborneVelocity, ground]

theorem airborne_add_onGround (flights : List EnrichedFlight) :
    (airborne flights).length + (onGround flights).length = flights.length := by
  rw [airborne, onGround, Nat.add_comm, ← List.countP_eq_length_filter, ← List.countP_eq_length_filter]
  simpa using (List.length_eq_countP_add_countP EnrichedFlight.onGround).symm

/-- The average wind is no stronger than the strongest, after rounding too. -/
theorem average_le_max {figure greatest : ℚ} (present : average values = some figure)
    (largest : values.max?.map (roundTo 1) = some greatest) : figure ≤ greatest := by
  obtain ⟨value, found, rfl⟩ := Option.map_eq_some_iff.mp largest
  obtain ⟨_, below⟩ := List.max?_eq_some_iff.mp found
  cases values with
  | nil => cases present
  | cons first values =>
    rw [average_cons] at present
    obtain rfl := Option.some.inj present
    exact roundTo_mono 1 (Statistics.mean_le (List.cons_ne_nil _ _) below)

theorem computeStats_perm (same : flights.Perm other) : computeStats flights = computeStats other := by
  have aloft : (airborne flights).Perm (airborne other) := same.filter _
  have grounded : (onGround flights).Perm (onGround other) := same.filter _
  have low : (lowAltitude flights).Perm (lowAltitude other) := aloft.filter _
  have speeds : (velocities flights).Perm (velocities other) := aloft.filterMap _
  have warmth : (temperatures flights).Perm (temperatures other) := same.filterMap _
  have winds : (windSpeeds flights).Perm (windSpeeds other) := same.filterMap _
  simp only [computeStats, same.length_eq, aloft.length_eq, grounded.length_eq, low.length_eq,
    average_perm speeds, average_perm warmth, average_perm winds, Statistics.max?_perm winds]

end Figures

/-- What holds between the figures of one list of flights. -/
structure Consistent (flights : List EnrichedFlight) (stats : Stats) : Prop where
  total : stats.totalTracked = flights.length
  partition : stats.airborne + stats.onGround = stats.totalTracked
  low : stats.lowAltitudeAirborneCount ≤ stats.airborne
  velocity : Averages airborneVelocity flights stats.avgVelocityMs
  temperature : Averages (·.weatherTemperatureC) flights stats.avgTemperatureC
  windSpeed : Averages (·.weatherWindSpeedKmh) flights stats.avgWindSpeedKmh
  strongest : stats.maxWindSpeedKmh = none ↔ stats.avgWindSpeedKmh = none
  weaker : ∀ average greatest, stats.avgWindSpeedKmh = some average →
    stats.maxWindSpeedKmh = some greatest → average ≤ greatest

theorem computeStats_consistent (flights : List EnrichedFlight) :
    Consistent flights (computeStats flights) where
  total := rfl
  partition := airborne_add_onGround flights
  low := List.length_filter_le _ _
  velocity := by
    have averages := averages_filterMap airborneVelocity flights
    rw [← velocities_eq] at averages
    exact averages
  temperature := averages_filterMap _ flights
  windSpeed := averages_filterMap _ flights
  strongest := by
    simp only [computeStats, Option.map_eq_none_iff, List.max?_eq_none_iff, average_eq_none_iff]
  weaker _ _ present largest := average_le_max present largest

/-- The figures fit together for every list of flights, and do not depend on its order. -/
theorem stats_consistent (flights : List EnrichedFlight) :
    Consistent flights (computeStats flights) ∧
      ∀ other, flights.Perm other → computeStats other = computeStats flights :=
  ⟨computeStats_consistent flights, fun _ same => (computeStats_perm same).symm⟩

/-- An aircraft in a wind of this speed. -/
def inWind (speed : ℚ) : EnrichedFlight where
  icao24 := "738065"
  originCountry := "Israel"
  baroAltitude := some 900
  weatherWindSpeedKmh := some speed
  fetchedAt := ⟨1735410800000000, by decide, by decide⟩

theorem stats_consistent_pair :
    (computeStats [inWind 8, inWind (811 / 100)]).avgWindSpeedKmh = some (81 / 10) ∧
      Consistent [inWind 8, inWind (811 / 100)] (computeStats [inWind 8, inWind (811 / 100)]) ∧
        computeStats [inWind (811 / 100), inWind 8] = computeStats [inWind 8, inWind (811 / 100)] := by
  obtain ⟨consistent, order⟩ := stats_consistent [inWind 8, inWind (811 / 100)]
  refine ⟨by decide +kernel, consistent, order _ ?_⟩
  exact .swap _ _ _

end Summary
end FlightHub
