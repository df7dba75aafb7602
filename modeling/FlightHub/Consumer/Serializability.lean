import FlightHub.Consumer.Repository

/-! Every interleaving of `upsert_flight` calls leaves in the committed tables
the ledger of the calls whose commit took effect, recorded one after the other
in commit order; and `flights` agrees with `flight_history`. -/
namespace FlightHub
open Postgres Relational Transition

def Database.historyOf (db : Database) (key : SqlValue) : List Values :=
  db.history.filter fun values => values .icao24 = key

/-- `flights` shows each recorded aircraft once, as its last history row does. -/
structure Database.Agrees (db : Database) : Prop where
  unique : KeysUnique flightsKey db.flights
  together : ∀ key, (∃ row ∈ db.flights, row flightsKey = key) ↔
    ∃ row ∈ db.flightHistory, row historyKey = key
  last : ∀ row ∈ db.flights, (db.historyOf (row flightsKey)).getLast? = some (flightsValues row)

theorem Database.Represents.current_recordAll {db : Database} {flights : List EnrichedFlight}
    (held : db.Represents (Ledger.recordAll EnrichedFlight.icao24 flights)) (key : SqlValue) :
    db.current key = (db.historyOf key).getLast? := by
  have listed : db.historyOf key =
      (flights.filter fun flight => SqlValue.text flight.icao24 = key).map EnrichedFlight.modelDump := by
    rw [historyOf, held.history, Ledger.log_recordAll, List.filter_map]
    rfl
  rw [listed, List.getLast?_map]
  by_cases keyed : ∃ icao24, key = .text icao24
  · obtain ⟨icao24, rfl⟩ := keyed
    simp only [held.current, Ledger.latest_recordAll, SqlValue.text.injEq]
  · have none_keyed : flights.filter (fun flight => SqlValue.text flight.icao24 = key) = [] := by
      rw [List.filter_eq_nil_iff]
      intro flight _ same
      exact keyed ⟨flight.icao24, (of_decide_eq_true same).symm⟩
    rw [none_keyed, held.keyed key fun icao24 same => keyed ⟨icao24, same⟩]
    rfl

theorem Database.Represents.agrees {db : Database} {flights : List EnrichedFlight}
    (held : db.Represents (Ledger.recordAll EnrichedFlight.icao24 flights)) : db.Agrees where
  unique := held.unique
  together key := by
    have snapshot : (∃ row ∈ db.flights, row flightsKey = key) ↔ (db.current key).isSome := by
      simp [Database.current, lookup, List.find?_isSome]
    have logged : (∃ row ∈ db.flightHistory, row historyKey = key) ↔
        (db.historyOf key).getLast?.isSome := by
      rw [List.getLast?_isSome, ne_eq, historyOf, List.filter_eq_nil_iff]
      simp [Database.history, historyValues]
    rw [snapshot, logged, held.current_recordAll]
  last row member := by
    have found := lookup_of_mem held.unique member
    rw [← held.current_recordAll, Database.current, found, Option.map_some]

namespace Repository
variable {driver : Driver} {s : State} {ls : List Action}

theorem serial_represents (commits : List Commit) :
    (serial .empty commits).Represents
      (Ledger.recordAll EnrichedFlight.icao24 (commits.map Commit.flight)) := by
  induction commits using List.reverseRecOn with
  | nil => exact Database.empty_represents
  | append_singleton commits commit ih =>
    rw [serial_concat, List.map_append, List.map_singleton, Ledger.recordAll_concat]
    exact ih.record commit.flight commit.started

theorem serial_history (commits : List Commit) : (serial .empty commits).history =
    commits.map fun commit => commit.flight.modelDump := by
  rw [(serial_represents commits).history, Ledger.log_recordAll, List.map_map]
  rfl

/-- What the log says of the labels of a run. -/
structure Traced (ls : List Action) (s : State) : Prop where
  carried : ∀ id flight, (s.calls id).flight = some flight → .call id flight ∈ ls
  called : ∀ commit ∈ s.commits, .call commit.call commit.flight ∈ ls
  inOrder : (s.commits.map Commit.call).Sublist (ls.filterMap Action.durable)

theorem run_traced {tables : Database} (run : Run (Steps (next driver)) (initial tables) ls s) :
    Traced ls s := by
  induction run with
  | refl => exact ⟨by simp [initial, CallState.flight], by simp [initial], by simp [initial]⟩
  | @next ls s action t _ moved ih =>
    have step := next_step moved
    constructor
    · intro id flight known
      rcases step.flight known with known | rfl
      · exact List.mem_append_left _ (ih.carried id flight known)
      · simp
    · intro commit member
      rcases step.commits with same | ⟨id, _, flight, started, _, _, known, same⟩
      · exact List.mem_append_left _ (ih.called commit (same ▸ member))
      · rw [same] at member
        rcases List.mem_append.mp member with member | member
        · exact List.mem_append_left _ (ih.called commit member)
        · rw [List.mem_singleton.mp member]
          exact List.mem_append_left _ (ih.carried id flight known)
    · rw [List.filterMap_append]
      rcases step.commits with same | ⟨id, reply, flight, started, rfl, effective, _, same⟩
      · rw [same]
        exact ih.inOrder.trans (List.sublist_append_left _ _)
      · have last : [Action.commit id reply].filterMap Action.durable = [id] := by
          simp [Action.durable, effective.1]
        rw [same, last, List.map_append]
        exact ih.inOrder.append (List.Sublist.refl _)

/-- The committed tables are those of a serial execution: the calls whose commit
took effect, each once and in commit order, each one upsert and one history row. -/
structure Serializable (ls : List Action) (s : State) : Prop where
  committed : s.session.committed = serial .empty s.commits
  once : (s.commits.map Commit.call).Nodup
  called : ∀ commit ∈ s.commits, .call commit.call commit.flight ∈ ls
  inOrder : (s.commits.map Commit.call).Sublist (ls.filterMap Action.durable)
  returned : ∀ id, s.calls id = .returned → id ∈ s.commits.map Commit.call
  agrees : s.session.committed.Agrees

theorem upserts_serializable (run : Run (Steps (next driver)) (initial .empty) ls s) :
    Serializable ls s := by
  have inv := run_inv run
  have traced := run_traced run
  refine ⟨inv.committed, inv.once, traced.called, traced.inOrder, inv.returned, ?_⟩
  rw [inv.committed]
  exact (serial_represents s.commits).agrees

private def sighting (icao24 : String) (velocity : ℚ) (fetched : Int)
    (valid : 0 ≤ fetched ∧ fetched ≤ 1735400100) : EnrichedFlight where
  icao24 := icao24
  originCountry := "Israel"
  velocity := some velocity
  fetchedAt := ⟨fetched * 1000000, by simp only [Python.minTimestamp]; omega,
    by simp only [Python.maxTimestamp]; omega⟩

/-- Two sightings of one aircraft reach the lock in reverse order. A third call
is refused its history row, and the connection is lost under the fourth. -/
def contendedSchedule : List Action := [
  .call 0 (sighting "738065" 230 1735400010 (by decide)),
  .call 1 (sighting "738065" 235 1735400020 (by decide)),
  .acquire 1, .upsert 1 .accepted 1735400021000000, .append 1 .accepted 1735400021000000,
  .call 2 (sighting "4ca7b3" 120 1735400030 (by decide)),
  .commit 1 .accepted,
  .acquire 0, .upsert 0 .accepted 1735400022000000, .append 0 .accepted 1735400022000000,
  .commit 0 .accepted,
  .acquire 2, .upsert 2 .accepted 1735400031000000, .append 2 .refused 1735400031000000,
  .call 3 (sighting "4ca7b3" 125 1735400040 (by decide)),
  .acquire 3, .lose, .upsert 3 .accepted 1735400041000000]

theorem upserts_serializable_contended : ∃ s,
    Run (Steps (next fun _ => true)) (initial .empty) contendedSchedule s ∧
      s.commits.map Commit.call = [1, 0] ∧ Serializable contendedSchedule s := by
  have passed : (replay (next fun _ => true) (initial .empty) contendedSchedule).any
      (fun s => s.commits.map Commit.call = [1, 0]) = true := by decide
  obtain ⟨s, run, commits⟩ := run_of_test passed
  exact ⟨s, run, of_decide_eq_true commits, upserts_serializable run⟩

end Repository
end FlightHub
