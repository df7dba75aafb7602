import FlightHub.Common.Python

/-! The models of `common/models.py`. pydantic is not part of the repository:
its lax-mode readings of a JSON value are a parameter, with the documented
readings of values which already have the field's type as laws. -/
namespace FlightHub
open Python

/-- The readings which pydantic gives a JSON value for a field of each type;
`none` is a validation error. -/
structure Pydantic where
  str : Json → Option String
  int : Json → Option Int
  float : Json → Option ℚ
  listInt : Json → Option (List Int)

/-- Values of a field's own type are read as they are, integers of any size
included; `null` is none of the types. An integer is read as a float where the
float is exact. -/
structure Pydantic.Lawful (pydantic : Pydantic) : Prop where
  str_str : ∀ text, pydantic.str (.str text) = some text
  str_null : pydantic.str .null = none
  int_int : ∀ n, pydantic.int (.int n) = some n
  int_null : pydantic.int .null = none
  float_float : ∀ x, pydantic.float (.float x) = some x
  float_int : ∀ n : Int, n.natAbs ≤ 2 ^ 53 → pydantic.float (.int n) = some n
  float_null : pydantic.float .null = none
  listInt_ints : ∀ ns : List Int, pydantic.listInt (.arr (ns.map .int)) = some ns

def Pydantic.strict : Pydantic where
  str
    | .str text => some text
    | _ => none
  int
    | .int n => some n
    | _ => none
  float
    | .float x => some x
    | .int n => some n
    | _ => none
  listInt
    | .arr items => items.mapM fun
      | .int n => some n
      | _ => none
    | _ => none

theorem Pydantic.strict_lawful : Pydantic.strict.Lawful where
  str_str _ := rfl
  str_null := rfl
  int_int _ := rfl
  int_null := rfl
  float_float _ := rfl
  float_int _ _ := rfl
  float_null := rfl
  listInt_ints ns := by
    simp only [strict, List.mapM_map]
    induction ns with
    | nil => rfl
    | cons n ns ih => simp [List.mapM_cons, ih]

/-- A field of type `X | None`. -/
def optional (read : Json → Option α) : Json → Option (Option α)
  | .null => some none
  | value => (read value).map some

/-! Index of each field within the raw OpenSky state-vector array. -/

namespace Index

def icao24 : Nat := 0
def callsign : Nat := 1
def originCountry : Nat := 2
def timePosition : Nat := 3
def lastContact : Nat := 4
def longitude : Nat := 5
def latitude : Nat := 6
def baroAltitude : Nat := 7
def onGround : Nat := 8
def velocity : Nat := 9
def trueTrack : Nat := 10
def verticalRate : Nat := 11
def sensors : Nat := 12
def geoAltitude : Nat := 13
def squawk : Nat := 14
def spi : Nat := 15
def positionSource : Nat := 16
def category : Nat := 17
def minLength : Nat := 17

end Index

structure StateVector where
  icao24 : String
  callsign : Option String := none
  originCountry : String
  timePosition : Option Int := none
  lastContact : Option Int := none
  longitude : Option ℚ := none
  latitude : Option ℚ := none
  baroAltitude : Option ℚ := none
  onGround : Bool := false
  velocity : Option ℚ := none
  trueTrack : Option ℚ := none
  verticalRate : Option ℚ := none
  sensors : Option (List Int) := none
  geoAltitude : Option ℚ := none
  squawk : Option String := none
  spi : Bool := false
  positionSource : Option Int := none
  category : Option Int := none
deriving DecidableEq

structure StateVector.Arguments where
  icao24 : Json
  callsign : Json
  originCountry : Json
  timePosition : Json
  lastContact : Json
  longitude : Json
  latitude : Json
  baroAltitude : Json
  onGround : Bool
  velocity : Json
  trueTrack : Json
  verticalRate : Json
  sensors : Json
  geoAltitude : Json
  squawk : Json
  spi : Bool
  positionSource : Json
  category : Json

namespace StateVector

def Arguments.read (pydantic : Pydantic) (arguments : Arguments) : Option StateVector := do
  let icao24 ← pydantic.str arguments.icao24
  let callsign ← optional pydantic.str arguments.callsign
  let originCountry ← pydantic.str arguments.originCountry
  let timePosition ← optional pydantic.int arguments.timePosition
  let lastContact ← optional pydantic.int arguments.lastContact
  let longitude ← optional pydantic.float arguments.longitude
  let latitude ← optional pydantic.float arguments.latitude
  let baroAltitude ← optional pydantic.float arguments.baroAltitude
  let velocity ← optional pydantic.float arguments.velocity
  let trueTrack ← optional pydantic.float arguments.trueTrack
  let verticalRate ← optional pydantic.float arguments.verticalRate
  let sensors ← optional pydantic.listInt arguments.sensors
  let geoAltitude ← optional pydantic.float arguments.geoAltitude
  let squawk ← optional pydantic.str arguments.squawk
  let positionSource ← optional pydantic.int arguments.positionSource
  let category ← optional pydantic.int arguments.category
  some { icao24, callsign, originCountry, timePosition, lastContact, longitude, latitude,
         baroAltitude, velocity, trueTrack, verticalRate, sensors, geoAltitude, squawk,
         positionSource, category, onGround := arguments.onGround, spi := arguments.spi }

/-- The locations of the validation error: every field which is not read, in
the order of the fields. -/
def Arguments.invalid (pydantic : Pydantic) (arguments : Arguments) : List String :=
  let fields :=
    [("icao24", (pydantic.str arguments.icao24).isNone),
     ("callsign", (optional pydantic.str arguments.callsign).isNone),
     ("origin_country", (pydantic.str arguments.originCountry).isNone),
     ("time_position", (optional pydantic.int arguments.timePosition).isNone),
     ("last_contact", (optional pydantic.int arguments.lastContact).isNone),
     ("longitude", (optional pydantic.float arguments.longitude).isNone),
     ("latitude", (optional pydantic.float arguments.latitude).isNone),
     ("baro_altitude", (optional pydantic.float arguments.baroAltitude).isNone),
     ("velocity", (optional pydantic.float arguments.velocity).isNone),
     ("true_track", (optional pydantic.float arguments.trueTrack).isNone),
     ("vertical_rate", (optional pydantic.float arguments.verticalRate).isNone),
     ("sensors", (optional pydantic.listInt arguments.sensors).isNone),
     ("geo_altitude", (optional pydantic.float arguments.geoAltitude).isNone),
     ("squawk", (optional pydantic.str arguments.squawk).isNone),
     ("position_source", (optional pydantic.int arguments.positionSource).isNone),
     ("category", (optional pydantic.int arguments.category).isNone)]
  (fields.filter Prod.snd).map Prod.fst

def validate (pydantic : Pydantic) (arguments : Arguments) : Except Exception StateVector :=
  match arguments.read pydantic with
  | some state => .ok state
  | none => .error (.validationError (arguments.invalid pydantic))

/-- `callsign.strip() if isinstance(callsign, str) else None`. -/
def stripCallsign : Json → Json
  | .str text => .str (stripString text)
  | _ => .null

/-- Map a raw index-based OpenSky state-vector array into a StateVector. -/
def fromArray (pydantic : Pydantic) (arr : Json) : Except Exception StateVector := do
  let length ← arr.len
  if length < Index.minLength then
    throw (.valueError
      s!"state vector array too short: expected >= {Index.minLength} fields, got {length}")
  let callsign ← arr.item Index.callsign
  validate pydantic {
    icao24 := ← arr.item Index.icao24
    callsign := stripCallsign callsign
    originCountry := ← arr.item Index.originCountry
    timePosition := ← arr.item Index.timePosition
    lastContact := ← arr.item Index.lastContact
    longitude := ← arr.item Index.longitude
    latitude := ← arr.item Index.latitude
    baroAltitude := ← arr.item Index.baroAltitude
    onGround := (← arr.item Index.onGround).truthy
    velocity := ← arr.item Index.velocity
    trueTrack := ← arr.item Index.trueTrack
    verticalRate := ← arr.item Index.verticalRate
    sensors := ← arr.item Index.sensors
    geoAltitude := ← arr.item Index.geoAltitude
    squawk := ← arr.item Index.squawk
    spi := (← arr.item Index.spi).truthy
    positionSource := ← arr.item Index.positionSource
    category := ← if length > Index.category then arr.item Index.category else pure .null }

end StateVector

structure FlightMessage where
  state : StateVector
  fetchedAt : Datetime
deriving DecidableEq

structure WeatherReading where
  temperatureC : Option ℚ := none
  windSpeedKmh : Option ℚ := none
  windDirectionDeg : Option ℚ := none
  weatherCode : Option Int := none
  observedAt : Option String := none
deriving DecidableEq

namespace WeatherReading

structure Arguments where
  temperatureC : Json
  windSpeedKmh : Json
  windDirectionDeg : Json
  weatherCode : Json
  observedAt : Json

def Arguments.read (pydantic : Pydantic) (arguments : Arguments) : Option WeatherReading := do
  let temperatureC ← optional pydantic.float arguments.temperatureC
  let windSpeedKmh ← optional pydantic.float arguments.windSpeedKmh
  let windDirectionDeg ← optional pydantic.float arguments.windDirectionDeg
  let weatherCode ← optional pydantic.int arguments.weatherCode
  let observedAt ← optional pydantic.str arguments.observedAt
  some { temperatureC, windSpeedKmh, windDirectionDeg, weatherCode, observedAt }

def Arguments.invalid (pydantic : Pydantic) (arguments : Arguments) : List String :=
  let fields :=
    [("temperature_c", (optional pydantic.float arguments.temperatureC).isNone),
     ("wind_speed_kmh", (optional pydantic.float arguments.windSpeedKmh).isNone),
     ("wind_direction_deg", (optional pydantic.float arguments.windDirectionDeg).isNone),
     ("weather_code", (optional pydantic.int arguments.weatherCode).isNone),
     ("observed_at", (optional pydantic.str arguments.observedAt).isNone)]
  (fields.filter Prod.snd).map Prod.fst

def validate (pydantic : Pydantic) (arguments : Arguments) : Except Exception WeatherReading :=
  match arguments.read pydantic with
  | some reading => .ok reading
  | none => .error (.validationError (arguments.invalid pydantic))

end WeatherReading

def unixToDatetime : Option Int → Except Exception (Option Datetime)
  | some ts => some <$> fromtimestamp ts
  | none => .ok none

/-- A flight state normalized and enriched with weather, ready for storage. -/
structure EnrichedFlight where
  icao24 : String
  callsign : Option String := none
  originCountry : String
  longitude : Option ℚ := none
  latitude : Option ℚ := none
  baroAltitude : Option ℚ := none
  geoAltitude : Option ℚ := none
  onGround : Bool := false
  velocity : Option ℚ := none
  trueTrack : Option ℚ := none
  verticalRate : Option ℚ := none
  squawk : Option String := none
  spi : Bool := false
  positionSource : Option Int := none
  category : Option Int := none
  timePosition : Option Datetime := none
  lastContact : Option Datetime := none
  weatherTemperatureC : Option ℚ := none
  weatherWindSpeedKmh : Option ℚ := none
  weatherWindDirectionDeg : Option ℚ := none
  weatherCode : Option Int := none
  fetchedAt : Datetime
deriving DecidableEq

section Normalisation
variable {message : FlightMessage} {weather : Option WeatherReading} {flight : EnrichedFlight}

def EnrichedFlight.assemble (message : FlightMessage) (weather : Option WeatherReading)
    (timePosition lastContact : Option Datetime) : EnrichedFlight where
  icao24 := message.state.icao24
  callsign := message.state.callsign
  originCountry := message.state.originCountry
  longitude := message.state.longitude
  latitude := message.state.latitude
  baroAltitude := message.state.baroAltitude
  geoAltitude := message.state.geoAltitude
  onGround := message.state.onGround
  velocity := message.state.velocity
  trueTrack := message.state.trueTrack
  verticalRate := message.state.verticalRate
  squawk := message.state.squawk
  spi := message.state.spi
  positionSource := message.state.positionSource
  category := message.state.category
  timePosition := timePosition
  lastContact := lastContact
  weatherTemperatureC := weather.bind WeatherReading.temperatureC
  weatherWindSpeedKmh := weather.bind WeatherReading.windSpeedKmh
  weatherWindDirectionDeg := weather.bind WeatherReading.windDirectionDeg
  weatherCode := weather.bind WeatherReading.weatherCode
  fetchedAt := message.fetchedAt

def EnrichedFlight.fromFlightMessage (message : FlightMessage) (weather : Option WeatherReading) :
    Except Exception EnrichedFlight := do
  let timePosition ← unixToDatetime message.state.timePosition
  let lastContact ← unixToDatetime message.state.lastContact
  return assemble message weather timePosition lastContact

theorem EnrichedFlight.fromFlightMessage_eq_ok :
    fromFlightMessage message weather = .ok flight ↔ ∃ timePosition lastContact,
      unixToDatetime message.state.timePosition = .ok timePosition ∧
        unixToDatetime message.state.lastContact = .ok lastContact ∧
          flight = assemble message weather timePosition lastContact := by
  unfold fromFlightMessage
  cases unixToDatetime message.state.timePosition with
  | error exception => simp [bind, Except.bind]
  | ok timePosition =>
    cases unixToDatetime message.state.lastContact with
    | error exception => simp [bind, Except.bind]
    | ok lastContact => simp [bind, Except.bind, pure, Except.pure, eq_comm]

/-- Normalisation fails on the two Unix times and nowhere else. -/
theorem EnrichedFlight.fromFlightMessage_ok_iff :
    (∃ flight, fromFlightMessage message weather = .ok flight) ↔
      (∃ time, unixToDatetime message.state.timePosition = .ok time) ∧
        ∃ time, unixToDatetime message.state.lastContact = .ok time := by
  simp only [fromFlightMessage_eq_ok]
  constructor
  · rintro ⟨_, timePosition, lastContact, position, contact, _⟩
    exact ⟨⟨timePosition, position⟩, lastContact, contact⟩
  · rintro ⟨⟨timePosition, position⟩, lastContact, contact⟩
    exact ⟨_, timePosition, lastContact, position, contact, rfl⟩

theorem EnrichedFlight.fromFlightMessage_icao24
    (made : fromFlightMessage message weather = .ok flight) :
    flight.icao24 = message.state.icao24 := by
  obtain ⟨_, _, _, _, rfl⟩ := fromFlightMessage_eq_ok.mp made
  rfl

theorem EnrichedFlight.fromFlightMessage_fetchedAt
    (made : fromFlightMessage message weather = .ok flight) :
    flight.fetchedAt = message.fetchedAt := by
  obtain ⟨_, _, _, _, rfl⟩ := fromFlightMessage_eq_ok.mp made
  rfl

end Normalisation
end FlightHub
