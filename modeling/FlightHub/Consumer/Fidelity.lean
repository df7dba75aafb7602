import FlightHub.Consumer.Domain
import FlightHub.Consumer.Tables

/-! From the raw array to the rows: what a successful `upsert_flight` leaves in
each column, in terms of the element at the index which OpenSky documents. -/
namespace FlightHub
open Python Postgres Relational

def documented (pydantic : Pydantic) (items : List Json) (weather : Option WeatherReading)
    (fetchedAt : Datetime) : Column → Option SqlValue
  | .icao24 => (pydantic.str (items.getD 0 .null)).map .text
  | .callsign =>
    (optional pydantic.str (StateVector.stripCallsign (items.getD 1 .null))).map (nullable .text)
  | .originCountry => (pydantic.str (items.getD 2 .null)).map .text
  | .timePosition =>
    (optional pydantic.int (items.getD 3 .null)).map (nullable fun ts => .timestamptz (ts * 1000000))
  | .lastContact =>
    (optional pydantic.int (items.getD 4 .null)).map (nullable fun ts => .timestamptz (ts * 1000000))
  | .longitude => (optional pydantic.float (items.getD 5 .null)).map (nullable .doublePrecision)
  | .latitude => (optional pydantic.float (items.getD 6 .null)).map (nullable .doublePrecision)
  | .baroAltitude => (optional pydantic.float (items.getD 7 .null)).map (nullable .doublePrecision)
  | .onGround => some (.boolean (items.getD 8 .null).truthy)
  | .velocity => (optional pydantic.float (items.getD 9 .null)).map (nullable .doublePrecision)
  | .trueTrack => (optional pydantic.float (items.getD 10 .null)).map (nullable .doublePrecision)
  | .verticalRate => (optional pydantic.float (items.getD 11 .null)).map (nullable .doublePrecision)
  | .geoAltitude => (optional pydantic.float (items.getD 13 .null)).map (nullable .doublePrecision)
  | .squawk => (optional pydantic.str (items.getD 14 .null)).map (nullable .text)
  | .spi => some (.boolean (items.getD 15 .null).truthy)
  | .positionSource => (optional pydantic.int (items.getD 16 .null)).map (nullable .integer)
  | .category => (optional pydantic.int (items.getD 17 .null)).map (nullable .integer)
  | .weatherTemperatureC =>
    some (nullable .doublePrecision (weather.bind WeatherReading.temperatureC))
  | .weatherWindSpeedKmh =>
    some (nullable .doublePrecision (weather.bind WeatherReading.windSpeedKmh))
  | .weatherWindDirectionDeg =>
    some (nullable .doublePrecision (weather.bind WeatherReading.windDirectionDeg))
  | .weatherCode => some (nullable .integer (weather.bind WeatherReading.weatherCode))
  | .fetchedAt => some (.timestamptz fetchedAt.micros)

/-- The element of an array which a column shows, a callsign without its padding. -/
def Column.element (items : List Json) : Column → Option Json
  | .icao24 => some (items.getD 0 .null)
  | .callsign => some (StateVector.stripCallsign (items.getD 1 .null))
  | .originCountry => some (items.getD 2 .null)
  | .timePosition => some (items.getD 3 .null)
  | .lastContact => some (items.getD 4 .null)
  | .longitude => some (items.getD 5 .null)
  | .latitude => some (items.getD 6 .null)
  | .baroAltitude => some (items.getD 7 .null)
  | .onGround => some (items.getD 8 .null)
  | .velocity => some (items.getD 9 .null)
  | .trueTrack => some (items.getD 10 .null)
  | .verticalRate => some (items.getD 11 .null)
  | .geoAltitude => some (items.getD 13 .null)
  | .squawk => some (items.getD 14 .null)
  | .spi => some (items.getD 15 .null)
  | .positionSource => some (items.getD 16 .null)
  | .category => some (items.getD 17 .null)
  | _ => none

/-- The value of an element which has the type of its column. An integer stands
for a float where the float is exact, and for a time by its Unix seconds. -/
def literal : ColumnType → Json → Option SqlValue
  | .boolean, element => some (.boolean element.truthy)
  | _, .null => some .null
  | .text, .str text => some (.text text)
  | .doublePrecision, .float x => some (.doublePrecision x)
  | .doublePrecision, .int n => if n.natAbs ≤ 2 ^ 53 then some (.doublePrecision n) else none
  | .integer, .int n => some (.integer n)
  | .timestamptz, .int ts => some (.timestamptz (ts * 1000000))
  | _, _ => none

section Reading
variable {pydantic : Pydantic} {items : List Json} {state : StateVector}
  {weather : Option WeatherReading} {fetchedAt : Datetime} {flight : EnrichedFlight}

theorem nullable_unixToDatetime {ts : Option Int} {time : Option Datetime}
    (read : unixToDatetime ts = .ok time) :
    nullable (fun ts => .timestamptz (ts * 1000000)) ts = nullable (.timestamptz ·.micros) time := by
  cases ts with
  | none =>
    cases read
    rfl
  | some seconds =>
    cases at_time : fromtimestamp seconds with
    | error exception => simp [unixToDatetime, at_time, Functor.map, Except.map] at read
    | ok moment =>
      simp only [unixToDatetime, at_time, Functor.map, Except.map, Except.ok.injEq] at read
      simp only [← read, nullable, Option.elim_some, fromtimestamp_micros at_time]

theorem documented_modelDump (accepted : StateVector.fromArray pydantic (.arr items) = .ok state)
    (made : EnrichedFlight.fromFlightMessage ⟨state, fetchedAt⟩ weather = .ok flight)
    (column : Column) :
    documented pydantic items weather fetchedAt column = some (flight.modelDump column) := by
  have reads := StateVector.reads_of_accepted accepted
  obtain ⟨position, contact, position_read, contact_read, rfl⟩ :=
    EnrichedFlight.fromFlightMessage_eq_ok.mp made
  cases column with
  | icao24 => exact congrArg (Option.map _) reads.icao24
  | callsign => exact congrArg (Option.map _) reads.callsign
  | originCountry => exact congrArg (Option.map _) reads.originCountry
  | timePosition =>
    refine (congrArg (Option.map _) reads.timePosition).trans ?_
    exact congrArg some (nullable_unixToDatetime position_read)
  | lastContact =>
    refine (congrArg (Option.map _) reads.lastContact).trans ?_
    exact congrArg some (nullable_unixToDatetime contact_read)
  | longitude => exact congrArg (Option.map _) reads.longitude
  | latitude => exact congrArg (Option.map _) reads.latitude
  | baroAltitude => exact congrArg (Option.map _) reads.baroAltitude
  | onGround => exact congrArg (some ∘ SqlValue.boolean) reads.onGround
  | velocity => exact congrArg (Option.map _) reads.velocity
  | trueTrack => exact congrArg (Option.map _) reads.trueTrack
  | verticalRate => exact congrArg (Option.map _) reads.verticalRate
  | geoAltitude => exact congrArg (Option.map _) reads.geoAltitude
  | squawk => exact congrArg (Option.map _) reads.squawk
  | spi => exact congrArg (some ∘ SqlValue.boolean) reads.spi
  | positionSource => exact congrArg (Option.map _) reads.positionSource
  | category => exact congrArg (Option.map _) reads.category
  | _ => rfl

def ReadsLiterally (type : ColumnType) (read : Json → Option α) (write : α → SqlValue) : Prop :=
  ∀ element value, element ≠ .null → literal type element = some value →
    ∃ x, read element = some x ∧ write x = value

theorem optional_literal {type : ColumnType} {read : Json → Option α} {write : α → SqlValue}
    (literally : ReadsLiterally type read write) (nullable_type : type ≠ .boolean)
    {element : Json} {value : SqlValue} (typed : literal type element = some value) :
    (optional read element).map (nullable write) = some value := by
  by_cases absent : element = .null
  · subst absent
    cases type <;> first | contradiction | exact typed
  · obtain ⟨x, known, rfl⟩ := literally element value absent typed
    cases element <;> first | contradiction | simp only [optional, known, Option.map_some, nullable,
      Option.elim_some]

theorem Pydantic.Lawful.str_literal (lawful : pydantic.Lawful) :
    ReadsLiterally .text pydantic.str .text := by
  intro element value present typed
  cases element <;> simp only [literal, reduceCtorEq, Option.some.injEq, ne_eq, not_true] at typed present
  exact ⟨_, lawful.str_str _, typed⟩

theorem Pydantic.Lawful.float_literal (lawful : pydantic.Lawful) :
    ReadsLiterally .doublePrecision pydantic.float .doublePrecision := by
  intro element value present typed
  cases element with
  | int n =>
    obtain ⟨exact_float, typed⟩ := Option.ite_none_right_eq_some.mp typed
    exact ⟨_, lawful.float_int n exact_float, Option.some.inj typed⟩
  | float x => exact ⟨_, lawful.float_float x, Option.some.inj typed⟩
  | _ => simp [literal] at typed present

theorem Pydantic.Lawful.int_literal (lawful : pydantic.Lawful) :
    ReadsLiterally .integer pydantic.int .integer ∧
      ReadsLiterally .timestamptz pydantic.int fun ts => .timestamptz (ts * 1000000) := by
  constructor <;> intro element value present typed <;> cases element <;>
    simp only [literal, reduceCtorEq, Option.some.injEq, ne_eq, not_true] at typed present <;>
    exact ⟨_, lawful.int_int _, typed⟩

theorem documented_literal (lawful : pydantic.Lawful) {column : Column} {element : Json}
    {value stored : SqlValue} (shown : column.element items = some element)
    (typed : literal column.type element = some value)
    (read : documented pydantic items weather fetchedAt column = some stored) : stored = value := by
  have required {element : Json} (typed : literal .text element = some value)
      (read : (pydantic.str element).map .text = some stored) : stored = value := by
    by_cases absent : element = .null
    · simp [absent, lawful.str_null] at read
    · obtain ⟨text, known, rfl⟩ := lawful.str_literal element value absent typed
      simpa only [known, Option.map_some, Option.some.injEq, eq_comm] using read
  have text (typed : literal .text element = some value) :=
    optional_literal lawful.str_literal nofun typed
  have float (typed : literal .doublePrecision element = some value) :=
    optional_literal lawful.float_literal nofun typed
  have int (typed : literal .integer element = some value) :=
    optional_literal lawful.int_literal.1 nofun typed
  have time (typed : literal .timestamptz element = some value) :=
    optional_literal lawful.int_literal.2 nofun typed
  cases column with
  | icao24 | originCountry =>
    cases shown
    exact required typed read
  | callsign | squawk =>
    cases shown
    exact Option.some.inj (read.symm.trans (text typed))
  | timePosition | lastContact =>
    cases shown
    exact Option.some.inj (read.symm.trans (time typed))
  | longitude | latitude | baroAltitude | velocity | trueTrack | verticalRate | geoAltitude =>
    cases shown
    exact Option.some.inj (read.symm.trans (float typed))
  | positionSource | category =>
    cases shown
    exact Option.some.inj (read.symm.trans (int typed))
  | onGround | spi =>
    cases shown
    exact Option.some.inj (read.symm.trans typed)
  | _ => cases shown

end Reading

/-- A call which returns on a session without pending changes has recorded its
flight in the tables which were committed before. -/
theorem FlightRepository.transact_ok {driver : Driver} {flight : EnrichedFlight} {answers : Answers}
    {session after : Session Database Instant} (settled : session.Settled)
    (done : transact driver flight answers session = (.ok (), after)) :
    ∃ now, after.committed = session.committed.record flight.modelDump now := by
  unfold transact at done
  cases cursor : session.cursor with
  | error error => simp [cursor] at done
  | ok _ =>
    simp only [cursor] at done
    split at done
    · cases done
    · next upserted executed =>
      obtain ⟨work, started, found, _, _, rfl⟩ := Session.execute_ok_iff.mp executed
      obtain rfl := settled.transaction found
      split at done
      · cases done
      · next appended executed =>
        obtain ⟨work, began, found, _, _, rfl⟩ := Session.execute_ok_iff.mp executed
        simp only [Session.transaction, Option.some.injEq, Prod.mk.injEq] at found
        obtain ⟨rfl, rfl⟩ := found
        obtain ⟨_, rfl⟩ := Session.commit_ok rfl done
        exact ⟨started, rfl⟩

theorem FlightRepository.upsertFlight_ok {driver : Driver} {flight : EnrichedFlight}
    {answers : Answers} {session after : Session Database Instant}
    (done : upsertFlight driver flight answers ⟨some session⟩ = (.ok (), ⟨some after⟩)) :
    transact driver flight answers session = (.ok (), after) := by
  unfold upsertFlight at done
  cases outcome : transact driver flight answers session with | mk result ended =>
  simp only [outcome, Prod.mk.injEq, FlightRepository.mk.injEq, Option.some.injEq] at done
  obtain ⟨returned, rfl⟩ := done
  cases result with
  | error error => cases returned
  | ok _ => rfl

/-- The flight is in both tables: as the one row of its aircraft, whether it was
inserted or overwrote an older row, and as one new history row. No other row of
either table has changed. -/
structure Recorded (values : Values) (before after : Database) : Prop where
  stored : ∃ row ∈ after.flights, flightsValues row = values
  unique : KeysUnique flightsKey after.flights
  others : after.flights.filter (fun row => row flightsKey ≠ values .icao24) =
    before.flights.filter (fun row => row flightsKey ≠ values .icao24)
  appended : ∃ row, after.flightHistory = before.flightHistory ++ [row] ∧ historyValues row = values

theorem Database.recorded (params : Values) (now : Instant) {db : Database}
    (unique : KeysUnique flightsKey db.flights) : Recorded params db (db.record params now) where
  stored := by
    have current := current_record params now db (params .icao24)
    rw [if_pos rfl] at current
    obtain ⟨row, found, same⟩ := Option.map_eq_some_iff.mp current
    exact ⟨row, mem_of_lookup found, same⟩
  unique := keysUnique_upsert params now db unique
  others := flights_upsert_other params now db
  appended := by
    refine ⟨_, rfl, ?_⟩
    funext column
    exact insertHistorySql_row params now column

/-- From an accepted array whose values fit the columns to both tables and back. -/
theorem column_fidelity {pydantic : Pydantic} (lawful : pydantic.Lawful) {items : List Json}
    {state : StateVector} (accepted : StateVector.fromArray pydantic (.arr items) = .ok state)
    {weather : Option WeatherReading} (within : WithinColumns pydantic items weather)
    (fetchedAt : Datetime) (driver : Driver) (answers : Answers)
    {session : Session Database Instant} (settled : session.Settled)
    (unique : KeysUnique flightsKey session.committed.flights) :
    ∃ flight, EnrichedFlight.fromFlightMessage ⟨state, fetchedAt⟩ weather = .ok flight ∧
      ∀ after, FlightRepository.upsertFlight driver flight answers ⟨some session⟩ =
          (.ok (), ⟨some after⟩) →
        ∃ values, Recorded values session.committed after.committed ∧
          (∀ column, documented pydantic items weather fetchedAt column = some (values column)) ∧
          (∀ column element value, column.element items = some element →
            literal column.type element = some value → values column = value) ∧
          EnrichedFlight.modelValidate values = some flight := by
  obtain ⟨flight, made, _⟩ := storable_of_within accepted fetchedAt within
  refine ⟨flight, made, fun after done => ⟨flight.modelDump, ?_, ?_, ?_, ?_⟩⟩
  · obtain ⟨now, recorded⟩ := FlightRepository.transact_ok settled
      (FlightRepository.upsertFlight_ok done)
    exact recorded ▸ Database.recorded flight.modelDump now unique
  · exact documented_modelDump accepted made
  · intro column element value shown typed
    exact documented_literal lawful shown typed (documented_modelDump accepted made column)
  · exact flight.modelValidate_modelDump

private def earlierSighting : EnrichedFlight where
  icao24 := "4ca7b3"
  callsign := some "OLD"
  originCountry := "Israel"
  onGround := true
  squawk := some "7000"
  fetchedAt := pollTime

private def knownAircraft : Session Database Instant :=
  Session.connect (Database.empty.record earlierSighting.modelDump 1735300000000000)

private theorem fullState_within : WithinColumns .strict (fullState 3) none where
  times index listed ts given := by
    simp only [List.mem_cons, List.not_mem_nil, or_false] at listed
    rcases listed with rfl | rfl <;> cases given <;> decide
  integers index listed n given := by
    simp only [List.mem_cons, List.not_mem_nil, or_false] at listed
    rcases listed with rfl | rfl <;> cases given <;> decide
  texts index listed text given := by
    simp only [List.mem_cons, List.not_mem_nil, or_false] at listed
    rcases listed with rfl | rfl <;> cases given <;> decide
  callsign text given := by
    cases given
    decide
  squawk text given := by
    cases given
    decide
  weatherCode code given := by cases given

theorem column_fidelity_full : ∃ flight after values,
    FlightRepository.upsertFlight (fun _ => true) flight
        ⟨1735400011000000, .accepted, .accepted, .accepted⟩ ⟨some knownAircraft⟩ =
          (.ok (), ⟨some after⟩) ∧
      Recorded values knownAircraft.committed after.committed ∧
      (∀ column, documented .strict (fullState 3) none pollTime column = some (values column)) ∧
      EnrichedFlight.modelValidate values = some flight := by
  obtain ⟨flight, _, stored⟩ := column_fidelity Pydantic.strict_lawful
    (rfl : StateVector.fromArray .strict (.arr (fullState 3)) = .ok _) fullState_within pollTime
    (fun _ => true) ⟨1735400011000000, .accepted, .accepted, .accepted⟩
    (Session.connect_settled _ : knownAircraft.Settled)
    (Database.keysUnique_upsert _ _ .empty List.nodup_nil)
  obtain ⟨values, recorded, shown, _, read⟩ := stored _ rfl
  exact ⟨flight, _, values, rfl, recorded, shown, read⟩

end FlightHub
