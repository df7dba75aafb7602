import FlightHub.AI.Anomalies
import Mathlib.Data.List.Nodup
import Mathlib.Data.List.Flatten

/-! The thresholds of `ai/anomalies.py` on one snapshot, `detect_anomalies`, in
exact arithmetic. A flight raises at most one flag of each kind, by its own
values alone. -/
namespace FlightHub
open Python

namespace Anomalies

def lowAltitudeM : ℚ := 150
def lowAltitudeMinVelocityMs : ℚ := 30
def rapidVerticalRateMs : ℚ := 15

/-- `f.velocity or 0`. -/
def groundspeed (f : EnrichedFlight) : ℚ := f.velocity.getD 0

def lowAltitude (f : EnrichedFlight) : List AnomalyFlag :=
  match f.baroAltitude with
  | none => []
  | some baroAltitude =>
    if !f.onGround && baroAltitude < lowAltitudeM && lowAltitudeMinVelocityMs < groundspeed f then
      [{ icao24 := f.icao24, callsign := f.callsign, kind := "low_altitude"
         detail := s!"Airborne at {formatFixed 0 baroAltitude}m altitude " ++
           s!"with velocity {formatFixed 0 (groundspeed f)} m/s" }]
    else []

def rapidVerticalRate (f : EnrichedFlight) : List AnomalyFlag :=
  match f.verticalRate with
  | none => []
  | some verticalRate =>
    if rapidVerticalRateMs ≤ |verticalRate| then
      let direction := if 0 < verticalRate then "Climbing" else "Descending"
      [{ icao24 := f.icao24, callsign := f.callsign, kind := "rapid_vertical_rate"
         detail := s!"{direction} at {formatFixed 1 |verticalRate|} m/s" }]
    else []

/-- The body of the loop appends the flags of one flight. -/
def detectAnomalies (flights : List EnrichedFlight) : List AnomalyFlag :=
  flights.flatMap fun f => lowAltitude f ++ rapidVerticalRate f

def explainSystemPrompt : String :=
  "You are an aviation operations assistant. You will be given a JSON list " ++
  "of automatically-flagged anomalies among currently tracked aircraft. " ++
  "Write a short, plain-English explanation (2-5 sentences, or one line " ++
  "per notable flag) of what was flagged and why it might be operationally " ++
  "relevant. Do not invent details beyond what's given. If the list is " ++
  "empty, simply say nothing unusual was detected."

/-! ### What is flagged -/

section Flags
variable {f : EnrichedFlight} {flag : AnomalyFlag} {flights : List EnrichedFlight}

/-- Airborne, low, and too fast for a landing. -/
def Low (f : EnrichedFlight) : Prop :=
  f.onGround = false ∧ (∃ altitude, f.baroAltitude = some altitude ∧ altitude < lowAltitudeM) ∧
    ∃ velocity, f.velocity = some velocity ∧ lowAltitudeMinVelocityMs < velocity

def Rapid (f : EnrichedFlight) : Prop :=
  ∃ rate, f.verticalRate = some rate ∧ rapidVerticalRateMs ≤ |rate|

/-- A flight without a velocity is not fast. -/
theorem fast_iff : lowAltitudeMinVelocityMs < groundspeed f ↔
    ∃ velocity, f.velocity = some velocity ∧ lowAltitudeMinVelocityMs < velocity := by
  cases known : f.velocity with
  | none =>
    have slow : ¬ lowAltitudeMinVelocityMs < 0 := by decide
    simp [groundspeed, known, slow]
  | some velocity => simp [groundspeed, known]

theorem lowAltitude_spec (f : EnrichedFlight) :
    (Low f ∧ ∃ flag, lowAltitude f = [flag] ∧ flag.icao24 = f.icao24 ∧ flag.callsign = f.callsign ∧
      flag.kind = "low_altitude") ∨ (¬ Low f ∧ lowAltitude f = []) := by
  unfold lowAltitude
  cases altitude : f.baroAltitude with
  | none =>
    refine .inr ⟨?_, rfl⟩
    rintro ⟨-, ⟨known, missing, -⟩, -⟩
    rw [altitude] at missing
    cases missing
  | some baroAltitude =>
    have low_iff : Low f ↔
        (!f.onGround && baroAltitude < lowAltitudeM && lowAltitudeMinVelocityMs < groundspeed f) = true := by
      simp only [Low, altitude, ← fast_iff, Option.some.injEq, exists_eq_left', Bool.and_eq_true,
        Bool.not_eq_true', decide_eq_true_eq, and_assoc]
    dsimp only
    by_cases low : Low f
    · rw [if_pos (low_iff.mp low)]
      exact .inl ⟨low, _, rfl, rfl, rfl, rfl⟩
    · rw [if_neg (mt low_iff.mpr low)]
      exact .inr ⟨low, rfl⟩

theorem rapidVerticalRate_spec (f : EnrichedFlight) :
    (Rapid f ∧ ∃ flag, rapidVerticalRate f = [flag] ∧ flag.icao24 = f.icao24 ∧ flag.callsign = f.callsign ∧
      flag.kind = "rapid_vertical_rate") ∨ (¬ Rapid f ∧ rapidVerticalRate f = []) := by
  unfold rapidVerticalRate
  cases known : f.verticalRate with
  | none =>
    refine .inr ⟨?_, rfl⟩
    rintro ⟨rate, missing, -⟩
    rw [known] at missing
    cases missing
  | some verticalRate =>
    have rapid_iff : Rapid f ↔ rapidVerticalRateMs ≤ |verticalRate| := by
      simp only [Rapid, known, Option.some.injEq, exists_eq_left']
    dsimp only
    by_cases rapid : Rapid f
    · rw [if_pos (rapid_iff.mp rapid)]
      exact .inl ⟨rapid, _, rfl, rfl, rfl, rfl⟩
    · rw [if_neg (mt rapid_iff.mpr rapid)]
      exact .inr ⟨rapid, rfl⟩

/-- What a flag is about. -/
def AnomalyFlag.subject (flag : AnomalyFlag) : String × String := (flag.icao24, flag.kind)

theorem mem_lowAltitude (member : flag ∈ lowAltitude f) :
    Low f ∧ flag.subject = (f.icao24, "low_altitude") := by
  rcases lowAltitude_spec f with ⟨low, own, listed, named, -, kind⟩ | ⟨-, none⟩
  · rw [listed] at member
    obtain rfl := List.mem_singleton.mp member
    exact ⟨low, by rw [AnomalyFlag.subject, named, kind]⟩
  · rw [none] at member
    cases member

theorem mem_rapidVerticalRate (member : flag ∈ rapidVerticalRate f) :
    Rapid f ∧ flag.subject = (f.icao24, "rapid_vertical_rate") := by
  rcases rapidVerticalRate_spec f with ⟨rapid, own, listed, named, -, kind⟩ | ⟨-, none⟩
  · rw [listed] at member
    obtain rfl := List.mem_singleton.mp member
    exact ⟨rapid, by rw [AnomalyFlag.subject, named, kind]⟩
  · rw [none] at member
    cases member

theorem mem_flags (member : flag ∈ lowAltitude f ++ rapidVerticalRate f) :
    Low f ∧ flag.subject = (f.icao24, "low_altitude") ∨
      Rapid f ∧ flag.subject = (f.icao24, "rapid_vertical_rate") :=
  (List.mem_append.mp member).imp mem_lowAltitude mem_rapidVerticalRate

theorem subjects_flags_nodup (f : EnrichedFlight) :
    ((lowAltitude f ++ rapidVerticalRate f).map AnomalyFlag.subject).Nodup := by
  rcases lowAltitude_spec f with ⟨-, low, isLow, -, -, lowKind⟩ | ⟨-, isLow⟩ <;>
    rcases rapidVerticalRate_spec f with ⟨-, rapid, isRapid, -, -, rapidKind⟩ | ⟨-, isRapid⟩ <;>
    rw [isLow, isRapid]
  · simp [AnomalyFlag.subject, lowKind, rapidKind]
  · simp
  · simp
  · simp

theorem mem_detectAnomalies (member : flag ∈ detectAnomalies flights) : ∃ f ∈ flights,
    Low f ∧ flag.subject = (f.icao24, "low_altitude") ∨
      Rapid f ∧ flag.subject = (f.icao24, "rapid_vertical_rate") := by
  obtain ⟨f, listed, own⟩ := List.mem_flatMap.mp member
  exact ⟨f, listed, mem_flags own⟩

/-- Every flight which meets a condition is flagged for it. -/
theorem detectAnomalies_complete (member : f ∈ flights) :
    (Low f → ∃ flag ∈ detectAnomalies flights, flag.subject = (f.icao24, "low_altitude")) ∧
      (Rapid f → ∃ flag ∈ detectAnomalies flights, flag.subject = (f.icao24, "rapid_vertical_rate")) := by
  have own (flag : AnomalyFlag) (raised : flag ∈ lowAltitude f ++ rapidVerticalRate f) :
      flag ∈ detectAnomalies flights := List.mem_flatMap.mpr ⟨f, member, raised⟩
  constructor
  · intro low
    rcases lowAltitude_spec f with ⟨-, flag, listed, named, -, kind⟩ | ⟨other, -⟩
    · exact ⟨flag, own flag (by simp [listed]), by rw [AnomalyFlag.subject, named, kind]⟩
    · exact absurd low other
  · intro rapid
    rcases rapidVerticalRate_spec f with ⟨-, flag, listed, named, -, kind⟩ | ⟨other, -⟩
    · exact ⟨flag, own flag (by simp [listed]), by rw [AnomalyFlag.subject, named, kind]⟩
    · exact absurd rapid other

/-- One snapshot flags no aircraft twice for the same. -/
theorem subjects_detectAnomalies_nodup (distinct : (flights.map EnrichedFlight.icao24).Nodup) :
    ((detectAnomalies flights).map AnomalyFlag.subject).Nodup := by
  rw [detectAnomalies, List.map_flatMap, List.nodup_flatMap]
  constructor
  · intro f _
    exact subjects_flags_nodup f
  · refine (List.pairwise_map.mp distinct).imp fun {first second} different => ?_
    intro subject here there
    obtain ⟨one, raised, rfl⟩ := List.mem_map.mp here
    obtain ⟨two, other, same⟩ := List.mem_map.mp there
    have named : one.icao24 = first.icao24 := by
      rcases mem_flags raised with ⟨-, about⟩ | ⟨-, about⟩ <;> exact congrArg Prod.fst about
    have others : two.icao24 = second.icao24 := by
      rcases mem_flags other with ⟨-, about⟩ | ⟨-, about⟩ <;> exact congrArg Prod.fst about
    exact different (named.symm.trans ((congrArg Prod.fst same).symm.trans others))

end Flags

/-! ### Holding patterns -/

section Holding
variable {haversineKm : ℚ → ℚ → ℚ → ℚ → ℚ} {icao24 : String} {callsign : Option String}
  {points : List EnrichedFlight} {flag : AnomalyFlag}

/-- At least four airborne positions within the radius, under at least four
headings of the least deviation. -/
structure Holding (haversineKm : ℚ → ℚ → ℚ → ℚ → ℚ) (points : List EnrichedFlight) : Prop where
  positions : holdingMinPoints ≤ (coords points).length
  headings : holdingMinPoints ≤ (tracks points).length
  near : maxRadius haversineKm (coords points) ≤ holdingMaxRadiusKm
  turning : holdingMinTrackStddevDeg ^ 2 ≤ Statistics.variance (tracks points)

theorem detectHoldingPattern_spec (haversineKm : ℚ → ℚ → ℚ → ℚ → ℚ) (icao24 : String)
    (callsign : Option String) (points : List EnrichedFlight) :
    (Holding haversineKm points ∧ ∃ flag, detectHoldingPattern haversineKm icao24 callsign points = some flag ∧
        flag.subject = (icao24, "possible_holding_pattern") ∧ flag.callsign = callsign) ∨
      (¬ Holding haversineKm points ∧ detectHoldingPattern haversineKm icao24 callsign points = none) := by
  unfold detectHoldingPattern
  dsimp only
  split
  · next few =>
    refine .inr ⟨?_, rfl⟩
    intro holding
    have positions := holding.positions
    have headings := holding.headings
    simp only [Bool.or_eq_true, decide_eq_true_eq] at few
    omega
  · next enough =>
    simp only [Bool.or_eq_true, decide_eq_true_eq, not_or, not_lt] at enough
    split
    · next circles => exact .inl ⟨⟨enough.1, enough.2, circles.1, circles.2⟩, _, rfl, rfl, rfl⟩
    · next straight => exact .inr ⟨fun holding => straight ⟨holding.near, holding.turning⟩, rfl⟩

end Holding

end Anomalies
end FlightHub
