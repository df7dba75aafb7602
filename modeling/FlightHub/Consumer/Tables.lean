import FlightHub.Consumer.Db
import FlightHub.Ledger.Basic

/-! What one `upsert_flight` does to the two tables, and the ledger which the
tables represent: under each `icao24` the flight recorded last, beside the log
of all recorded flights. -/
namespace FlightHub
open Python Relational Postgres

abbrev flightsKey : FlightsColumn := .shared .icao24
abbrev historyKey : HistoryColumn := .shared .icao24

def flightsValues (row : Row FlightsColumn SqlValue) : Values := fun column => row (.shared column)
def historyValues (row : Row HistoryColumn SqlValue) : Values := fun column => row (.shared column)

namespace Database

def current (db : Database) (key : SqlValue) : Option Values :=
  (lookup flightsKey key db.flights).map flightsValues

def history (db : Database) : List Values := db.flightHistory.map historyValues

section Record
variable (params : Values) (now : Instant) (db : Database)

private theorem upsert_keeps (old : Row FlightsColumn SqlValue)
    (conflict : old flightsKey =
      upsertFlightSql.row (flightsDefaults now) params flightsKey) :
    upsertFlightSql.update (.timestamptz now) old
        (upsertFlightSql.row (flightsDefaults now) params) flightsKey =
      upsertFlightSql.row (flightsDefaults now) params flightsKey :=
  upsertFlightSql_update now _ _ conflict .icao24

theorem current_upsert (key : SqlValue) :
    (db.upsert params now).current key =
      if params .icao24 = key then some params else db.current key := by
  have proposedKey := upsertFlightSql_row params now .icao24
  have placed := lookup_place (upsert_keeps params now) key db.flights
  change Option.map flightsValues (lookup flightsKey key (place flightsKey _ _ db.flights)) = _
  rw [placed, proposedKey]
  by_cases same : params .icao24 = key
  · simp only [same, if_true, Option.map_some, Option.some.injEq]
    funext column
    cases found : lookup flightsKey key db.flights with
    | none => exact upsertFlightSql_row params now column
    | some old =>
      have conflict := (lookup_key found).trans (same.symm.trans proposedKey.symm)
      exact (upsertFlightSql_update now old _ conflict column).trans
        (upsertFlightSql_row params now column)
  · simp only [same, if_false, current]

theorem flights_upsert_other :
    (db.upsert params now).flights.filter (fun row => row flightsKey ≠ params .icao24) =
      db.flights.filter (fun row => row flightsKey ≠ params .icao24) := by
  have kept := filter_place (upsert_keeps params now) db.flights
  rw [upsertFlightSql_row params now .icao24] at kept
  exact kept

theorem keysUnique_upsert (unique : KeysUnique flightsKey db.flights) :
    KeysUnique flightsKey (db.upsert params now).flights :=
  keysUnique_place (upsert_keeps params now) unique

theorem history_append : (db.append params now).history = db.history ++ [params] := by
  simp only [history, append, InsertStatement.execute, List.map_append, List.map_cons, List.map_nil,
    List.append_cancel_left_eq, List.cons.injEq, and_true]
  funext column
  exact insertHistorySql_row params now column

theorem current_record (key : SqlValue) :
    (db.record params now).current key =
      if params .icao24 = key then some params else db.current key :=
  current_upsert params now db key

theorem history_record : (db.record params now).history = db.history ++ [params] :=
  history_append params now (db.upsert params now)

end Record

/-- The tables hold a ledger of flights keyed by `icao24`. -/
structure Represents (db : Database) (ledger : Ledger String EnrichedFlight) : Prop where
  unique : KeysUnique flightsKey db.flights
  current : ∀ icao24, db.current (.text icao24) =
    (ledger.latest icao24).map EnrichedFlight.modelDump
  keyed : ∀ key, (∀ icao24, key ≠ .text icao24) → db.current key = none
  history : db.history = ledger.log.map EnrichedFlight.modelDump

theorem empty_represents : empty.Represents Ledger.empty where
  unique := List.nodup_nil
  current _ := rfl
  keyed _ _ := rfl
  history := rfl

/-- One call refines one entry of the ledger. -/
theorem Represents.record {db : Database} {ledger : Ledger String EnrichedFlight}
    (held : db.Represents ledger) (flight : EnrichedFlight) (now : Instant) :
    (db.record flight.modelDump now).Represents
      (Ledger.record EnrichedFlight.icao24 ledger flight) where
  unique := keysUnique_upsert _ _ _ held.unique
  current icao24 := by
    rw [current_record, Ledger.record]
    by_cases same : flight.icao24 = icao24
    · simp [EnrichedFlight.modelDump, same]
    · simp [EnrichedFlight.modelDump, same, Function.update_of_ne (Ne.symm same), held.current]
  keyed key other := by
    have differs : flight.modelDump .icao24 ≠ key := fun same => other _ same.symm
    rw [current_record, if_neg differs, held.keyed key other]
  history := by
    simp [history_record, Ledger.record, held.history]

end Database
end FlightHub
