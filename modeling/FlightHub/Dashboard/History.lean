import FlightHub.Dashboard.Snapshot
import FlightHub.Grouping.Basic
import Mathlib.Data.Prod.Lex
import Mathlib.Data.String.Basic

/-! The recent positions of each aircraft, `_fetch_recent_history` of
`dashboard/app.py`, over the tables of the consumer. Text is ordered by the
collation of the database, of which only the sort keys are known. All times are
microseconds of one clock. -/
namespace FlightHub
open Python Relational Postgres Transition Grouping

namespace Dashboard

def historyLookbackMinutes : Int := 20

def lookback (minutes : Int) : Int := minutes * 60000000

/-- `fetched_at > now() - interval`, which is not true of a null. -/
def inWindow (now minutes : Int) (values : Values) : Bool :=
  match values .fetchedAt with
  | .timestamptz fetched => now - lookback minutes < fetched
  | _ => false

section Order
variable {K : Type} [LinearOrder K] (collate : String → K)

/-- What `ORDER BY icao24, fetched_at` compares, in columns which are not null. -/
def sortKey (values : Values) : Lex (K × Int) :=
  toLex (collate (values .icao24).readText.get!, match values .fetchedAt with
    | .timestamptz fetched => fetched
    | _ => 0)

def listedBefore (first second : Row HistoryColumn SqlValue) : Prop :=
  sortKey collate (historyValues first) ≤ sortKey collate (historyValues second)

instance : DecidableRel (listedBefore collate) := fun _ _ => inferInstanceAs (Decidable (_ ≤ _))

/-- The rows which the query returns at `now`. -/
def recentHistory (now minutes : Int) (db : Database) : List (Row HistoryColumn SqlValue) :=
  (db.flightHistory.filter fun row => inWindow now minutes (historyValues row)).insertionSort
    (listedBefore collate)

end Order

/-- The loop behind the query; `none` when a row does not validate. -/
def groupHistory (rows : List (Row HistoryColumn SqlValue)) : Option (List (String × List EnrichedFlight)) := do
  let flights ← rows.mapM fun row => EnrichedFlight.modelValidate (historyValues row)
  return groupBy (·.icao24) flights

/-- Each flight which was fetched after `since` is listed once, under its own
aircraft and in the order of time; the aircraft stand in the order of the collation. -/
structure Collected {K : Type} [LinearOrder K] (collate : String → K) (since : Int)
    (flights : List EnrichedFlight) (groups : List (String × List EnrichedFlight)) : Prop where
  ordered : groups.Pairwise fun first second => collate first.1 < collate second.1
  points : ∀ icao24 points, (icao24, points) ∈ groups → points ≠ [] ∧
    points.Perm (flights.filter fun flight => flight.icao24 = icao24 ∧ since < flight.fetchedAt.micros) ∧
      points.Pairwise fun earlier later => earlier.fetchedAt.micros ≤ later.fetchedAt.micros
  complete : ∀ flight ∈ flights, since < flight.fetchedAt.micros →
    ∃ points, (flight.icao24, points) ∈ groups

section Collected
variable {K : Type} [LinearOrder K] {collate : String → K} {now minutes since : Int}
  {flights : List EnrichedFlight} {db : Database}

def flightKey (collate : String → K) (flight : EnrichedFlight) : Lex (K × Int) :=
  toLex (collate flight.icao24, flight.fetchedAt.micros)

def flightBefore (collate : String → K) (first second : EnrichedFlight) : Prop :=
  flightKey collate first ≤ flightKey collate second

instance : DecidableRel (flightBefore collate) := fun _ _ => inferInstanceAs (Decidable (_ ≤ _))

instance : Std.Total (flightBefore collate) := ⟨fun _ _ => le_total _ _⟩

instance : IsTrans EnrichedFlight (flightBefore collate) := ⟨fun _ _ _ => le_trans⟩

/-- The flights of the window, as the query orders them. -/
def sightings (collate : String → K) (since : Int) (flights : List EnrichedFlight) : List EnrichedFlight :=
  (flights.filter fun flight => since < flight.fetchedAt.micros).insertionSort (flightBefore collate)

theorem mapM_modelDump (flights : List EnrichedFlight) :
    (flights.map EnrichedFlight.modelDump).mapM EnrichedFlight.modelValidate = some flights := by
  induction flights with
  | nil => rfl
  | cons flight rest ih =>
    rw [List.map_cons, List.mapM_cons, EnrichedFlight.modelValidate_modelDump, ih]
    rfl

/-- The rows of the window hold the flights of the window, in the same order. -/
theorem recentHistory_values (stored : db.history = flights.map EnrichedFlight.modelDump) :
    (recentHistory collate now minutes db).map historyValues =
      (sightings collate (now - lookback minutes) flights).map EnrichedFlight.modelDump := by
  have selected : (db.flightHistory.filter fun row => inWindow now minutes (historyValues row)).map historyValues =
      (flights.filter fun flight => now - lookback minutes < flight.fetchedAt.micros).map
        EnrichedFlight.modelDump := by
    calc (db.flightHistory.filter fun row => inWindow now minutes (historyValues row)).map historyValues
      _ = db.history.filter (inWindow now minutes) := by rw [Database.history, List.filter_map]; rfl
      _ = _ := by rw [stored, List.filter_map]; rfl
  let before (first second : Values) : Prop := sortKey collate first ≤ sortKey collate second
  have : DecidableRel before := fun _ _ => inferInstanceAs (Decidable (_ ≤ _))
  calc (recentHistory collate now minutes db).map historyValues
    _ = ((db.flightHistory.filter fun row => inWindow now minutes (historyValues row)).map
          historyValues).insertionSort before :=
        List.map_insertionSort _ before _ _ fun _ _ _ _ => Iff.rfl
    _ = ((flights.filter fun flight => now - lookback minutes < flight.fetchedAt.micros).map
          EnrichedFlight.modelDump).insertionSort before := by rw [selected]
    _ = (sightings collate (now - lookback minutes) flights).map EnrichedFlight.modelDump :=
        (List.map_insertionSort (flightBefore collate) before EnrichedFlight.modelDump _
          fun _ _ _ _ => Iff.rfl).symm

/-- On tables which hold the flights, every row of the query validates. -/
theorem fetchRecentHistory_eq (stored : db.history = flights.map EnrichedFlight.modelDump) :
    groupHistory (recentHistory collate now minutes db) =
      some (groupBy (·.icao24) (sightings collate (now - lookback minutes) flights)) := by
  have validated : (recentHistory collate now minutes db).mapM
      (fun row => EnrichedFlight.modelValidate (historyValues row)) =
        some (sightings collate (now - lookback minutes) flights) := by
    rw [← mapM_modelDump, ← recentHistory_values stored, List.mapM_map]
    rfl
  rw [groupHistory, validated]
  rfl

theorem mem_sightings {flight : EnrichedFlight} :
    flight ∈ sightings collate since flights ↔ flight ∈ flights ∧ since < flight.fetchedAt.micros := by
  rw [sightings, List.mem_insertionSort, List.mem_filter, decide_eq_true_eq]

theorem sightings_pairwise (collate : String → K) (since : Int) (flights : List EnrichedFlight) :
    (sightings collate since flights).Pairwise (flightBefore collate) :=
  List.pairwise_insertionSort _ _

theorem flightBefore_collate {first second : EnrichedFlight} (before : flightBefore collate first second) :
    collate first.icao24 ≤ collate second.icao24 :=
  (Prod.Lex.toLex_le_toLex.mp before).elim le_of_lt fun same => le_of_eq same.1

theorem flightBefore_fetchedAt {first second : EnrichedFlight} (before : flightBefore collate first second)
    (same : first.icao24 = second.icao24) : first.fetchedAt.micros ≤ second.fetchedAt.micros := by
  rcases Prod.Lex.toLex_le_toLex.mp before with less | ⟨-, earlier⟩
  · rw [same] at less
    exact absurd less (lt_irrefl _)
  · exact earlier

theorem sightings_points (collate : String → K) (since : Int) (flights : List EnrichedFlight)
    (icao24 : String) :
    ((sightings collate since flights).filter (·.icao24 = icao24)).Perm
        (flights.filter fun flight => flight.icao24 = icao24 ∧ since < flight.fetchedAt.micros) ∧
      ((sightings collate since flights).filter (·.icao24 = icao24)).Pairwise fun earlier later =>
        earlier.fetchedAt.micros ≤ later.fetchedAt.micros := by
  constructor
  · have sorted := (List.perm_insertionSort (flightBefore collate)
      (flights.filter fun flight => since < flight.fetchedAt.micros)).filter (·.icao24 = icao24)
    simpa only [sightings, List.filter_filter, Bool.decide_and] using sorted
  · have own := (sightings_pairwise collate since flights).filter (·.icao24 = icao24)
    refine own.imp_of_mem fun {first second} member other before => ?_
    have named := of_decide_eq_true (List.mem_filter.mp member).2
    have others := of_decide_eq_true (List.mem_filter.mp other).2
    exact flightBefore_fetchedAt before (named.trans others.symm)

theorem sightings_collected (since : Int) (flights : List EnrichedFlight)
    (injective : Function.Injective collate) :
    Collected collate since flights (groupBy (·.icao24) (sightings collate since flights)) := by
  obtain ⟨distinct, sublist, listed⟩ := keys_groupBy (·.icao24) (sightings collate since flights)
  constructor
  · have weakly : (keys (groupBy (·.icao24) (sightings collate since flights))).Pairwise fun first second =>
        collate first ≤ collate second := by
      refine List.Pairwise.sublist sublist (List.pairwise_map.mpr ?_)
      exact (sightings_pairwise collate since flights).imp flightBefore_collate
    have strictly := weakly.and distinct
    refine (List.pairwise_map.mp strictly).imp fun {first second} both => ?_
    exact lt_of_le_of_ne both.1 fun same => both.2 (injective same)
  · intro icao24 points member
    obtain ⟨rfl, nonempty⟩ := mem_groupBy_iff.mp member
    exact ⟨nonempty, sightings_points collate since flights icao24⟩
  · intro flight member young
    have seen : flight ∈ sightings collate since flights := mem_sightings.mpr ⟨member, young⟩
    obtain ⟨⟨icao24, points⟩, found, named⟩ := List.mem_map.mp ((listed _).mpr ⟨flight, seen, rfl⟩)
    exact ⟨points, named ▸ found⟩

end Collected
end Dashboard

namespace Consumer
open Dashboard
variable {K : Type} [LinearOrder K] {settings : Settings} {driver : Driver} {s : State}

theorem Tracked.history (tracked : Tracked driver .empty s) : s.repository.session.committed.history =
    (s.repository.commits.map Repository.Commit.flight).map EnrichedFlight.modelDump := by
  rw [tracked.repository.committed, Repository.history_serial, List.map_map]
  rfl

/-- In every state of the service, at any time, the query for the recent history
succeeds and lists each stored flight of its window once. -/
theorem history_collected {ls : List Label} (collate : String → K) (injective : Function.Injective collate)
    (run : Run (Steps (next settings driver)) (initial .empty) ls s) (now minutes : Int) : ∃ groups,
    groupHistory (recentHistory collate now minutes s.repository.session.committed) = some groups ∧
      Collected collate (now - lookback minutes) (s.repository.commits.map Repository.Commit.flight) groups :=
  ⟨_, fetchRecentHistory_eq (run_tracked run).history, sightings_collected _ _ injective⟩

/-- Three sightings of one aircraft and one of another are stored out of order. At the
time of the query the oldest is just outside the window. -/
def scattered : List Label := [
  .publish (report "738065" 7), .publish (report "4ca7b3" 3), .publish (report "738065" 0),
  .publish (report "738065" 5), .deliver, .deliver, .deliver, .deliver, .start, .start, .start, .start,
  .enrich 0 (some none), .enrich 1 (some none), .enrich 2 (some none), .enrich 3 (some none)] ++
  stored 0 ++ stored 1 ++ stored 2 ++ stored 3

private def listed (s : State) : Option (List (String × List Int)) :=
  (groupHistory (recentHistory String.toList 1735401210000000 20 s.repository.session.committed)).map
    fun groups => groups.map fun group => (group.1, group.2.map (·.fetchedAt.micros))

theorem history_collected_scattered : ∃ s,
    Run (Steps (next {} fun _ => true)) (initial .empty) scattered s ∧ ∃ groups,
      groupHistory (recentHistory String.toList 1735401210000000 20 s.repository.session.committed) =
        some groups ∧
      groups.map (fun group => (group.1, group.2.map (·.fetchedAt.micros))) =
        [("4ca7b3", [1735400013000000]), ("738065", [1735400015000000, 1735400017000000])] ∧
      Collected String.toList (1735401210000000 - lookback 20)
        (s.repository.commits.map Repository.Commit.flight) groups := by
  have passed : (replay (next {} fun _ => true) (initial .empty) scattered).any (fun s => listed s =
      some [("4ca7b3", [1735400013000000]), ("738065", [1735400015000000, 1735400017000000])]) = true := by
    decide +kernel
  obtain ⟨s, run, shown⟩ := run_of_test passed
  have injective : Function.Injective String.toList := fun _ _ => String.toList_inj.mp
  obtain ⟨groups, found, collected⟩ := history_collected String.toList injective run 1735401210000000 20
  refine ⟨s, run, groups, found, ?_, collected⟩
  have shown := of_decide_eq_true shown
  rw [listed, found] at shown
  exact Option.some.inj shown

end Consumer
end FlightHub
