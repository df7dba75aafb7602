import FlightHub.Consumer.Schema
import FlightHub.Postgres.Session

/-! PostgreSQL persistence for enriched flights, `consumer/db.py`: the two
statements as data, and `upsert_flight` as its operations on the connection. -/
namespace FlightHub
open Python Relational Postgres

abbrev Instant := Int

structure Database where
  flights : List (Row FlightsColumn SqlValue)
  flightHistory : List (Row HistoryColumn SqlValue)

def Database.empty : Database := ⟨[], []⟩

def flightsDefaults (now : Instant) : Row FlightsColumn SqlValue
  | .shared .onGround | .shared .spi => .boolean false
  | .updatedAt => .timestamptz now
  | _ => .null

def historyDefaults (now : Instant) : Row HistoryColumn SqlValue
  | .shared .onGround | .shared .spi => .boolean false
  | .recordedAt => .timestamptz now
  | _ => .null

def upsertFlightSql : UpsertStatement FlightsColumn Column where
  columns := [
    .shared .icao24, .shared .callsign, .shared .originCountry, .shared .longitude,
    .shared .latitude, .shared .baroAltitude, .shared .geoAltitude,
    .shared .onGround, .shared .velocity, .shared .trueTrack, .shared .verticalRate,
    .shared .squawk, .shared .spi, .shared .positionSource, .shared .category,
    .shared .timePosition, .shared .lastContact, .shared .weatherTemperatureC,
    .shared .weatherWindSpeedKmh, .shared .weatherWindDirectionDeg, .shared .weatherCode,
    .shared .fetchedAt]
  values := [
    .icao24, .callsign, .originCountry, .longitude, .latitude, .baroAltitude,
    .geoAltitude, .onGround, .velocity, .trueTrack, .verticalRate, .squawk,
    .spi, .positionSource, .category, .timePosition, .lastContact,
    .weatherTemperatureC, .weatherWindSpeedKmh, .weatherWindDirectionDeg,
    .weatherCode, .fetchedAt]
  columns_distinct := by decide
  same_width := rfl
  conflict := .shared .icao24
  set := [
    (.shared .callsign, .excluded (.shared .callsign)),
    (.shared .originCountry, .excluded (.shared .originCountry)),
    (.shared .longitude, .excluded (.shared .longitude)),
    (.shared .latitude, .excluded (.shared .latitude)),
    (.shared .baroAltitude, .excluded (.shared .baroAltitude)),
    (.shared .geoAltitude, .excluded (.shared .geoAltitude)),
    (.shared .onGround, .excluded (.shared .onGround)),
    (.shared .velocity, .excluded (.shared .velocity)),
    (.shared .trueTrack, .excluded (.shared .trueTrack)),
    (.shared .verticalRate, .excluded (.shared .verticalRate)),
    (.shared .squawk, .excluded (.shared .squawk)),
    (.shared .spi, .excluded (.shared .spi)),
    (.shared .positionSource, .excluded (.shared .positionSource)),
    (.shared .category, .excluded (.shared .category)),
    (.shared .timePosition, .excluded (.shared .timePosition)),
    (.shared .lastContact, .excluded (.shared .lastContact)),
    (.shared .weatherTemperatureC, .excluded (.shared .weatherTemperatureC)),
    (.shared .weatherWindSpeedKmh, .excluded (.shared .weatherWindSpeedKmh)),
    (.shared .weatherWindDirectionDeg, .excluded (.shared .weatherWindDirectionDeg)),
    (.shared .weatherCode, .excluded (.shared .weatherCode)),
    (.shared .fetchedAt, .excluded (.shared .fetchedAt)),
    (.updatedAt, .now)]
  set_distinct := by decide

def insertHistorySql : InsertStatement HistoryColumn Column where
  columns := [
    .shared .icao24, .shared .callsign, .shared .originCountry, .shared .longitude,
    .shared .latitude, .shared .baroAltitude, .shared .geoAltitude,
    .shared .onGround, .shared .velocity, .shared .trueTrack, .shared .verticalRate,
    .shared .squawk, .shared .spi, .shared .positionSource, .shared .category,
    .shared .timePosition, .shared .lastContact, .shared .weatherTemperatureC,
    .shared .weatherWindSpeedKmh, .shared .weatherWindDirectionDeg, .shared .weatherCode,
    .shared .fetchedAt]
  values := [
    .icao24, .callsign, .originCountry, .longitude, .latitude, .baroAltitude,
    .geoAltitude, .onGround, .velocity, .trueTrack, .verticalRate, .squawk,
    .spi, .positionSource, .category, .timePosition, .lastContact,
    .weatherTemperatureC, .weatherWindSpeedKmh, .weatherWindDirectionDeg,
    .weatherCode, .fetchedAt]
  columns_distinct := by decide
  same_width := rfl

def Database.upsert (params : Values) (now : Instant) (db : Database) : Database :=
  { db with
    flights := upsertFlightSql.execute (.timestamptz now) (flightsDefaults now) params db.flights }

def Database.append (params : Values) (now : Instant) (db : Database) : Database :=
  { db with
    flightHistory := insertHistorySql.execute (historyDefaults now) params db.flightHistory }

/-- One `upsert_flight` on the tables: the upsert, then the history row. -/
def Database.record (params : Values) (now : Instant) (db : Database) : Database :=
  (db.upsert params now).append params now

structure Answers where
  clock : Instant
  upsert : Reply
  history : Reply
  commit : CommitReply

/-- The driver's adaptation of the parameters is a function of the parameters. -/
abbrev Driver := Values → Bool

namespace FlightRepository

/-- The body of the `with` statement of `upsert_flight`. -/
def transact (driver : Driver) (flight : EnrichedFlight) (answers : Answers)
    (session : Session Database Instant) : Except Error Unit × Session Database Instant :=
  let params := flight.modelDump
  match session.cursor with
  | .error error => (.error error, session)
  | .ok () =>
    match session.execute (Database.upsert params) (driver params) answers.clock answers.upsert with
    | (.error error, session) => (.error error, session)
    | (.ok (), session) =>
      match session.execute (Database.append params) (driver params) answers.clock
        answers.history with
      | (.error error, session) => (.error error, session)
      | (.ok (), session) => session.commit answers.commit

end FlightRepository

/-- `_conn` is `None` until `connect` has returned. -/
structure FlightRepository where
  conn : Option (Session Database Instant) := none

inductive StoreError where
  | notConnected
  | database (error : Error)

namespace FlightRepository

def connect (committed : Database) (_repository : FlightRepository) : FlightRepository :=
  { conn := some (Session.connect committed) }

def upsertFlight (driver : Driver) (flight : EnrichedFlight) (answers : Answers)
    (repository : FlightRepository) : Except StoreError Unit × FlightRepository :=
  match repository.conn with
  | none => (.error .notConnected, repository)
  | some session =>
    let (result, session) := transact driver flight answers session
    (result.mapError .database, { conn := some session })

end FlightRepository

section Statements
variable (params : Values) (now : Instant)

theorem upsertFlightSql_row (column : Column) :
    upsertFlightSql.row (flightsDefaults now) params (.shared column) = params column := by
  apply InsertStatement.row_listed
  cases column <;> decide

theorem insertHistorySql_row (column : Column) :
    insertHistorySql.row (historyDefaults now) params (.shared column) = params column := by
  apply InsertStatement.row_listed
  cases column <;> decide

theorem upsertFlightSql_update (old proposed : Row FlightsColumn SqlValue)
    (conflict : old (.shared .icao24) = proposed (.shared .icao24)) (column : Column) :
    upsertFlightSql.update (.timestamptz now) old proposed (.shared column) =
      proposed (.shared column) := by
  by_cases key : column = .icao24
  · subst key
    rw [UpsertStatement.update_unlisted (by decide), conflict]
  · have listed : (FlightsColumn.shared column, Source.excluded (.shared column)) ∈
        upsertFlightSql.set := by
      cases column <;> first | contradiction | decide
    exact UpsertStatement.update_listed listed _ _ _

end Statements
end FlightHub
