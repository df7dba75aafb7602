import FlightHub.AI.Flags
import FlightHub.Dashboard.History
import Mathlib.Data.String.Basic

/-! The flags of the anomalies panel, `_render_anomalies_panel` of
`dashboard/app.py`, over what the consumer has stored. The snapshot and the
history are read one after the other, so the tables may change in between. -/
namespace FlightHub
open Python Relational Postgres Transition Grouping Anomalies

namespace Dashboard

/-- `points[0].callsign if points else None`. -/
def firstCallsign (points : List EnrichedFlight) : Option String := points.head?.bind (·.callsign)

def holdingFlags (haversineKm : ℚ → ℚ → ℚ → ℚ → ℚ) (history : List (String × List EnrichedFlight)) :
    List AnomalyFlag :=
  history.filterMap fun (icao24, points) =>
    detectHoldingPattern haversineKm icao24 (firstCallsign points) points

def panelFlags (haversineKm : ℚ → ℚ → ℚ → ℚ → ℚ) (flights : List EnrichedFlight)
    (history : List (String × List EnrichedFlight)) : List AnomalyFlag :=
  detectAnomalies flights ++ holdingFlags haversineKm history

/-- What an aircraft is flagged for, once each: its row in the snapshot, and its
stored flights of the window. -/
structure Flagged (haversineKm : ℚ → ℚ → ℚ → ℚ → ℚ) (flights stored : List EnrichedFlight) (since : Int)
    (flags : List AnomalyFlag) : Prop where
  once : (flags.map AnomalyFlag.subject).Nodup
  kinds : ∀ flag ∈ flags, flag.kind ∈ ["low_altitude", "rapid_vertical_rate", "possible_holding_pattern"]
  low : ∀ icao24, (icao24, "low_altitude") ∈ flags.map AnomalyFlag.subject ↔
    ∃ f ∈ flights, f.icao24 = icao24 ∧ Low f
  rapid : ∀ icao24, (icao24, "rapid_vertical_rate") ∈ flags.map AnomalyFlag.subject ↔
    ∃ f ∈ flights, f.icao24 = icao24 ∧ Rapid f
  holding : ∀ icao24, (icao24, "possible_holding_pattern") ∈ flags.map AnomalyFlag.subject ↔
    Holding haversineKm (stored.filter fun f => f.icao24 = icao24 ∧ since < f.fetchedAt.micros)

section Flagged
variable {K : Type} [LinearOrder K] {collate : String → K} {haversineKm : ℚ → ℚ → ℚ → ℚ → ℚ}
  {flights stored : List EnrichedFlight} {history : List (String × List EnrichedFlight)} {since : Int}
  {flag : AnomalyFlag} {points : List EnrichedFlight} {icao24 : String}

theorem mem_holdingFlags : flag ∈ holdingFlags haversineKm history ↔ ∃ icao24 points,
    (icao24, points) ∈ history ∧
      detectHoldingPattern haversineKm icao24 (firstCallsign points) points = some flag := by
  simp [holdingFlags, List.mem_filterMap]

theorem subject_of_detect {callsign : Option String}
    (detected : detectHoldingPattern haversineKm icao24 callsign points = some flag) :
    Holding haversineKm points ∧ flag.subject = (icao24, "possible_holding_pattern") := by
  rcases detectHoldingPattern_spec haversineKm icao24 callsign points with
    ⟨holding, own, found, subject, -⟩ | ⟨-, missing⟩
  · rw [found] at detected
    obtain rfl := Option.some.inj detected
    exact ⟨holding, subject⟩
  · rw [missing] at detected
    cases detected

/-- Whether points make a holding pattern does not depend on their order. -/
theorem holding_perm {other : List EnrichedFlight} (same : points.Perm other) :
    Holding haversineKm points ↔ Holding haversineKm other := by
  have detected := @detect_perm haversineKm "" none points other same
  rcases detectHoldingPattern_spec haversineKm "" none points with ⟨here, _, found, -⟩ | ⟨here, found⟩ <;>
    rcases detectHoldingPattern_spec haversineKm "" none other with ⟨there, _, others, -⟩ | ⟨there, others⟩
  · exact iff_of_true here there
  · rw [found, others] at detected
    cases detected
  · rw [found, others] at detected
    cases detected
  · exact iff_of_false here there

theorem holdingFlags_iff (collected : Collected collate since stored history) (icao24 : String) :
    (icao24, "possible_holding_pattern") ∈ (holdingFlags haversineKm history).map AnomalyFlag.subject ↔
      Holding haversineKm (stored.filter fun f => f.icao24 = icao24 ∧ since < f.fetchedAt.micros) := by
  constructor
  · intro member
    obtain ⟨flag, raised, about⟩ := List.mem_map.mp member
    obtain ⟨other, points, grouped, detected⟩ := mem_holdingFlags.mp raised
    obtain ⟨holding, subject⟩ := subject_of_detect detected
    obtain rfl : other = icao24 := congrArg Prod.fst (subject.symm.trans about)
    exact (holding_perm (collected.points _ _ grouped).2.1).mp holding
  · intro holding
    have some_point : stored.filter (fun f => f.icao24 = icao24 ∧ since < f.fetchedAt.micros) ≠ [] := by
      intro empty
      have positions := holding.positions
      rw [empty] at positions
      exact absurd positions (by decide)
    obtain ⟨f, member⟩ := List.exists_mem_of_ne_nil _ some_point
    obtain ⟨known, criteria⟩ := List.mem_filter.mp member
    obtain ⟨rfl, young⟩ := of_decide_eq_true criteria
    obtain ⟨points, grouped⟩ := collected.complete f known young
    have circles := (holding_perm (collected.points _ _ grouped).2.1).mpr holding
    rcases detectHoldingPattern_spec haversineKm f.icao24 (firstCallsign points) points with
      ⟨-, flag, found, subject, -⟩ | ⟨straight, -⟩
    · exact List.mem_map.mpr ⟨flag, mem_holdingFlags.mpr ⟨_, points, grouped, found⟩, subject⟩
    · exact absurd circles straight

theorem kind_of_mem_holdingFlags (member : flag ∈ holdingFlags haversineKm history) :
    flag.kind = "possible_holding_pattern" := by
  obtain ⟨icao24, points, -, detected⟩ := mem_holdingFlags.mp member
  exact congrArg Prod.snd (subject_of_detect detected).2

theorem kind_of_mem_detectAnomalies (member : flag ∈ detectAnomalies flights) :
    flag.kind = "low_altitude" ∨ flag.kind = "rapid_vertical_rate" := by
  obtain ⟨f, -, ⟨-, subject⟩ | ⟨-, subject⟩⟩ := mem_detectAnomalies member
  · exact .inl (congrArg Prod.snd subject)
  · exact .inr (congrArg Prod.snd subject)

theorem subjects_holdingFlags_nodup (collected : Collected collate since stored history) :
    ((holdingFlags haversineKm history).map AnomalyFlag.subject).Nodup := by
  refine List.pairwise_map.mpr (List.pairwise_filterMap.mpr (collected.ordered.imp ?_))
  rintro ⟨first, points⟩ ⟨second, others⟩ less flag raised other detected same
  have named := (subject_of_detect raised).2
  have others := (subject_of_detect detected).2
  have equal : first = second := congrArg Prod.fst (named.symm.trans (same.trans others))
  rw [equal] at less
  exact absurd less (lt_irrefl _)

theorem detectAnomalies_low_iff (flights : List EnrichedFlight) (icao24 : String) :
    (icao24, "low_altitude") ∈ (detectAnomalies flights).map AnomalyFlag.subject ↔
      ∃ f ∈ flights, f.icao24 = icao24 ∧ Low f := by
  constructor
  · intro member
    obtain ⟨flag, raised, about⟩ := List.mem_map.mp member
    obtain ⟨f, known, ⟨low, subject⟩ | ⟨-, subject⟩⟩ := mem_detectAnomalies raised
    · exact ⟨f, known, congrArg Prod.fst (subject.symm.trans about), low⟩
    · exact absurd (congrArg Prod.snd (subject.symm.trans about)) (by simp)
  · rintro ⟨f, known, rfl, low⟩
    obtain ⟨flag, raised, subject⟩ := (detectAnomalies_complete known).1 low
    exact List.mem_map.mpr ⟨flag, raised, subject⟩

theorem detectAnomalies_rapid_iff (flights : List EnrichedFlight) (icao24 : String) :
    (icao24, "rapid_vertical_rate") ∈ (detectAnomalies flights).map AnomalyFlag.subject ↔
      ∃ f ∈ flights, f.icao24 = icao24 ∧ Rapid f := by
  constructor
  · intro member
    obtain ⟨flag, raised, about⟩ := List.mem_map.mp member
    obtain ⟨f, known, ⟨-, subject⟩ | ⟨rapid, subject⟩⟩ := mem_detectAnomalies raised
    · exact absurd (congrArg Prod.snd (subject.symm.trans about)) (by simp)
    · exact ⟨f, known, congrArg Prod.fst (subject.symm.trans about), rapid⟩
  · rintro ⟨f, known, rfl, rapid⟩
    obtain ⟨flag, raised, subject⟩ := (detectAnomalies_complete known).2 rapid
    exact List.mem_map.mpr ⟨flag, raised, subject⟩

/-- A subject of another kind is not among those of the snapshot, or of the history. -/
theorem not_mem_detectAnomalies {kind : String} (other : kind ∉ ["low_altitude", "rapid_vertical_rate"]) :
    (icao24, kind) ∉ (detectAnomalies flights).map AnomalyFlag.subject := by
  intro member
  obtain ⟨flag, raised, about⟩ := List.mem_map.mp member
  obtain rfl : flag.kind = kind := congrArg Prod.snd about
  rcases kind_of_mem_detectAnomalies raised with low | rapid
  · exact other (by simp [low])
  · exact other (by simp [rapid])

theorem not_mem_holdingFlags {kind : String} (other : kind ≠ "possible_holding_pattern") :
    (icao24, kind) ∉ (holdingFlags haversineKm history).map AnomalyFlag.subject := by
  intro member
  obtain ⟨flag, raised, about⟩ := List.mem_map.mp member
  obtain rfl : flag.kind = kind := congrArg Prod.snd about
  exact other (kind_of_mem_holdingFlags raised)

theorem panelFlags_flagged (distinct : (flights.map EnrichedFlight.icao24).Nodup)
    (collected : Collected collate since stored history) :
    Flagged haversineKm flights stored since (panelFlags haversineKm flights history) := by
  unfold panelFlags
  constructor
  · rw [List.map_append]
    refine (subjects_detectAnomalies_nodup distinct).append (subjects_holdingFlags_nodup collected) ?_
    rintro ⟨icao24, kind⟩ here there
    by_cases holding : kind = "possible_holding_pattern"
    · subst holding
      exact not_mem_detectAnomalies (by decide) here
    · exact not_mem_holdingFlags holding there
  · intro flag member
    rcases List.mem_append.mp member with snapshot | recent
    · rcases kind_of_mem_detectAnomalies snapshot with kind | kind <;> simp [kind]
    · simp [kind_of_mem_holdingFlags recent]
  · intro icao24
    rw [List.map_append, List.mem_append, or_iff_left (not_mem_holdingFlags (by decide))]
    exact detectAnomalies_low_iff flights icao24
  · intro icao24
    rw [List.map_append, List.mem_append, or_iff_left (not_mem_holdingFlags (by decide))]
    exact detectAnomalies_rapid_iff flights icao24
  · intro icao24
    rw [List.map_append, List.mem_append, or_iff_right (not_mem_detectAnomalies (by decide))]
    exact holdingFlags_iff collected icao24

end Flagged

section Snapshot
variable {db : Database} {commits : List Repository.Commit} {now : Int} {flights : List EnrichedFlight}

theorem mapM_stamped {rows : List (Row FlightsColumn SqlValue)}
    (stamped : ∀ row ∈ rows, ∃ flight : EnrichedFlight, flightsValues row = flight.modelDump)
    (read : (rows.mapM fun row => EnrichedFlight.modelValidate (flightsValues row)) = some flights) :
    flights.map EnrichedFlight.modelDump = rows.map flightsValues := by
  induction rows generalizing flights with
  | nil =>
    cases read
    rfl
  | cons row rest ih =>
    obtain ⟨⟨flight, values⟩, stamped⟩ := List.forall_mem_cons.mp stamped
    rw [List.mapM_cons, values, EnrichedFlight.modelValidate_modelDump] at read
    simp only [Option.bind_eq_bind, Option.bind_some, Option.bind_eq_some_iff, Option.pure_def,
      Option.some.injEq] at read
    obtain ⟨others, known, rfl⟩ := read
    rw [List.map_cons, List.map_cons, values, ih stamped known]

/-- The snapshot is that of the rows which the query selects, in their order. -/
theorem fetchCurrentFlights_values (stamped : db.Stamped commits)
    (fetched : fetchCurrentFlights now db = some flights) : flights.map EnrichedFlight.modelDump =
      ((db.flights.filter (recent now)).insertionSort notBefore).map flightsValues := by
  refine mapM_stamped (fun row member => ?_) fetched
  have selected := (List.perm_insertionSort notBefore (db.flights.filter (recent now))).mem_iff.mp member
  obtain ⟨commit, -, values, -⟩ := stamped row (List.mem_of_mem_filter selected)
  exact ⟨commit.flight, values⟩

/-- The snapshot holds each aircraft once. -/
theorem fetchCurrentFlights_distinct (stamped : db.Stamped commits) (unique : KeysUnique flightsKey db.flights)
    (fetched : fetchCurrentFlights now db = some flights) :
    (flights.map EnrichedFlight.icao24).Nodup := by
  have sorted := List.perm_insertionSort notBefore (db.flights.filter (recent now))
  have distinct : (((db.flights.filter (recent now)).insertionSort notBefore).map (· flightsKey)).Nodup := by
    rw [(sorted.map _).nodup_iff]
    exact unique.sublist (List.Sublist.map _ List.filter_sublist)
  have keyed : (flights.map EnrichedFlight.icao24).map SqlValue.text =
      ((db.flights.filter (recent now)).insertionSort notBefore).map (· flightsKey) := by
    have column := congrArg (List.map fun values : Values => values .icao24)
      (fetchCurrentFlights_values stamped fetched)
    rw [List.map_map, List.map_map] at column
    rw [List.map_map]
    exact column
  rw [← keyed] at distinct
  exact distinct.of_map _

end Snapshot

end Dashboard

namespace Consumer
open Dashboard
variable {K : Type} [LinearOrder K] {driver : Driver} {s t : State}

theorem Tracked.unique (tracked : Tracked driver .empty s) :
    KeysUnique flightsKey s.repository.session.committed.flights := by
  rw [tracked.repository.committed]
  exact (Repository.serial_represents _).agrees.unique

/-- Whatever the consumer has stored when the panel reads the snapshot and then,
after further steps, the history, the flags are those of the stored flights. -/
theorem Tracked.flagged (tracked : Tracked driver .empty s) (meanwhile : Tracked driver .empty t)
    (collate : String → K) (injective : Function.Injective collate) (haversineKm : ℚ → ℚ → ℚ → ℚ → ℚ)
    (now later : Int) : ∃ flights history,
    fetchCurrentFlights now s.repository.session.committed = some flights ∧
      groupHistory (recentHistory collate later historyLookbackMinutes t.repository.session.committed) =
        some history ∧
      Flagged haversineKm flights (t.repository.commits.map Repository.Commit.flight)
        (later - lookback historyLookbackMinutes) (panelFlags haversineKm flights history) := by
  obtain ⟨flights, fetched, -⟩ := exists_fetch tracked.stamped now
  have distinct := fetchCurrentFlights_distinct tracked.stamped tracked.unique fetched
  refine ⟨flights, _, fetched, fetchRecentHistory_eq meanwhile.history, ?_⟩
  exact panelFlags_flagged distinct (sightings_collected _ _ injective)

end Consumer
end FlightHub
