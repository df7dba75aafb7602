import FlightHub.Common.Models
import FlightHub.Relational.Statement

/-! The tables of `db/init.sql`, the rows which `model_dump` writes to them and
the model which `model_validate` reads back. Both tables share the 22 columns of
an `EnrichedFlight`; each has one more timestamp with `DEFAULT now()`. The
surrogate `id` of `flight_history` is read by no modelled code and left out. -/
namespace FlightHub
open Python Relational

/-- The columns which the two tables share, named as the fields of `EnrichedFlight`. -/
inductive Column where
  | icao24
  | callsign
  | originCountry
  | longitude
  | latitude
  | baroAltitude
  | geoAltitude
  | onGround
  | velocity
  | trueTrack
  | verticalRate
  | squawk
  | spi
  | positionSource
  | category
  | timePosition
  | lastContact
  | weatherTemperatureC
  | weatherWindSpeedKmh
  | weatherWindDirectionDeg
  | weatherCode
  | fetchedAt
deriving DecidableEq

inductive FlightsColumn where
  | shared (column : Column)
  | updatedAt
deriving DecidableEq

inductive HistoryColumn where
  | shared (column : Column)
  | recordedAt
deriving DecidableEq

/-- A stored value. Timestamps are UTC instants in microseconds. -/
inductive SqlValue where
  | null
  | text (value : String)
  | doublePrecision (value : ℚ)
  | boolean (value : Bool)
  | integer (value : Int)
  | timestamptz (micros : Int)
deriving DecidableEq

inductive ColumnType where
  | text
  | doublePrecision
  | boolean
  | integer
  | timestamptz
deriving DecidableEq

def Column.type : Column → ColumnType
  | .icao24 | .callsign | .originCountry | .squawk => .text
  | .longitude | .latitude | .baroAltitude | .geoAltitude | .velocity | .trueTrack
  | .verticalRate | .weatherTemperatureC | .weatherWindSpeedKmh | .weatherWindDirectionDeg =>
    .doublePrecision
  | .onGround | .spi => .boolean
  | .positionSource | .category | .weatherCode => .integer
  | .timePosition | .lastContact | .fetchedAt => .timestamptz

def Column.notNull : Column → Bool
  | .icao24 | .originCountry | .onGround | .spi | .fetchedAt => true
  | _ => false

def NulFree (text : String) : Prop := Char.ofNat 0 ∉ text.toList

def Int32 (n : Int) : Prop := -(2 ^ 31) ≤ n ∧ n < 2 ^ 31

/-- The range of `TIMESTAMPTZ`, 4713 BC to 294276 AD. -/
def Timestamptz (micros : Int) : Prop :=
  -210866803200000000 ≤ micros ∧ micros < 9224318016000000000

instance (text : String) : Decidable (NulFree text) := inferInstanceAs (Decidable (¬ _))
instance (n : Int) : Decidable (Int32 n) := inferInstanceAs (Decidable (_ ∧ _))
instance (micros : Int) : Decidable (Timestamptz micros) := inferInstanceAs (Decidable (_ ∧ _))

def ColumnType.Fits : ColumnType → SqlValue → Prop
  | _, .null => True
  | .text, .text value => NulFree value
  | .doublePrecision, .doublePrecision _ => True
  | .boolean, .boolean _ => True
  | .integer, .integer value => Int32 value
  | .timestamptz, .timestamptz micros => Timestamptz micros
  | _, _ => False

instance (type : ColumnType) (value : SqlValue) : Decidable (type.Fits value) := by
  cases type <;> cases value <;> unfold ColumnType.Fits <;> infer_instance

def Column.Fits (column : Column) (value : SqlValue) : Prop :=
  column.type.Fits value ∧ (column.notNull = true → value ≠ .null)

instance (column : Column) (value : SqlValue) : Decidable (column.Fits value) :=
  inferInstanceAs (Decidable (_ ∧ _))

abbrev Values := Column → SqlValue

def nullable (write : α → SqlValue) (value : Option α) : SqlValue := value.elim .null write

/-- `model_dump()`, by field name. -/
def EnrichedFlight.modelDump (flight : EnrichedFlight) : Values
  | .icao24 => .text flight.icao24
  | .callsign => nullable .text flight.callsign
  | .originCountry => .text flight.originCountry
  | .longitude => nullable .doublePrecision flight.longitude
  | .latitude => nullable .doublePrecision flight.latitude
  | .baroAltitude => nullable .doublePrecision flight.baroAltitude
  | .geoAltitude => nullable .doublePrecision flight.geoAltitude
  | .onGround => .boolean flight.onGround
  | .velocity => nullable .doublePrecision flight.velocity
  | .trueTrack => nullable .doublePrecision flight.trueTrack
  | .verticalRate => nullable .doublePrecision flight.verticalRate
  | .squawk => nullable .text flight.squawk
  | .spi => .boolean flight.spi
  | .positionSource => nullable .integer flight.positionSource
  | .category => nullable .integer flight.category
  | .timePosition => nullable (.timestamptz ·.micros) flight.timePosition
  | .lastContact => nullable (.timestamptz ·.micros) flight.lastContact
  | .weatherTemperatureC => nullable .doublePrecision flight.weatherTemperatureC
  | .weatherWindSpeedKmh => nullable .doublePrecision flight.weatherWindSpeedKmh
  | .weatherWindDirectionDeg => nullable .doublePrecision flight.weatherWindDirectionDeg
  | .weatherCode => nullable .integer flight.weatherCode
  | .fetchedAt => .timestamptz flight.fetchedAt.micros

namespace SqlValue

def readText : SqlValue → Option String
  | .text value => some value
  | _ => none

def readFloat : SqlValue → Option ℚ
  | .doublePrecision value => some value
  | _ => none

def readBool : SqlValue → Option Bool
  | .boolean value => some value
  | _ => none

def readInt : SqlValue → Option Int
  | .integer value => some value
  | _ => none

def readDatetime : SqlValue → Option Datetime
  | .timestamptz micros => Datetime.ofMicros micros
  | _ => none

def readOptional (read : SqlValue → Option α) : SqlValue → Option (Option α)
  | .null => some none
  | value => (read value).map some

end SqlValue

/-- `EnrichedFlight.model_validate(row)` on the values which psycopg loads from
typed columns; a key which is no field is ignored. -/
def EnrichedFlight.modelValidate (row : Values) : Option EnrichedFlight := do
  let icao24 ← (row .icao24).readText
  let callsign ← (row .callsign).readOptional SqlValue.readText
  let originCountry ← (row .originCountry).readText
  let longitude ← (row .longitude).readOptional SqlValue.readFloat
  let latitude ← (row .latitude).readOptional SqlValue.readFloat
  let baroAltitude ← (row .baroAltitude).readOptional SqlValue.readFloat
  let geoAltitude ← (row .geoAltitude).readOptional SqlValue.readFloat
  let onGround ← (row .onGround).readBool
  let velocity ← (row .velocity).readOptional SqlValue.readFloat
  let trueTrack ← (row .trueTrack).readOptional SqlValue.readFloat
  let verticalRate ← (row .verticalRate).readOptional SqlValue.readFloat
  let squawk ← (row .squawk).readOptional SqlValue.readText
  let spi ← (row .spi).readBool
  let positionSource ← (row .positionSource).readOptional SqlValue.readInt
  let category ← (row .category).readOptional SqlValue.readInt
  let timePosition ← (row .timePosition).readOptional SqlValue.readDatetime
  let lastContact ← (row .lastContact).readOptional SqlValue.readDatetime
  let weatherTemperatureC ← (row .weatherTemperatureC).readOptional SqlValue.readFloat
  let weatherWindSpeedKmh ← (row .weatherWindSpeedKmh).readOptional SqlValue.readFloat
  let weatherWindDirectionDeg ← (row .weatherWindDirectionDeg).readOptional SqlValue.readFloat
  let weatherCode ← (row .weatherCode).readOptional SqlValue.readInt
  let fetchedAt ← (row .fetchedAt).readDatetime
  some { icao24, callsign, originCountry, longitude, latitude, baroAltitude, geoAltitude,
         onGround, velocity, trueTrack, verticalRate, squawk, spi, positionSource, category,
         timePosition, lastContact, weatherTemperatureC, weatherWindSpeedKmh,
         weatherWindDirectionDeg, weatherCode, fetchedAt }

theorem readOptional_nullable {read : SqlValue → Option α} {write : α → SqlValue}
    (inverse : ∀ value, read (write value) = some value) (written : ∀ value, write value ≠ .null)
    (value : Option α) : (nullable write value).readOptional read = some value := by
  cases value with
  | none => rfl
  | some value =>
    have present := written value
    simp only [nullable, Option.elim_some]
    unfold SqlValue.readOptional
    split
    · contradiction
    · rw [inverse, Option.map_some]

theorem EnrichedFlight.modelValidate_modelDump (flight : EnrichedFlight) :
    modelValidate flight.modelDump = some flight := by
  have texts (value : Option String) :
      (nullable .text value).readOptional SqlValue.readText = some value := by
    apply readOptional_nullable <;> simp [SqlValue.readText]
  have floats (value : Option ℚ) :
      (nullable .doublePrecision value).readOptional SqlValue.readFloat = some value := by
    apply readOptional_nullable <;> simp [SqlValue.readFloat]
  have ints (value : Option Int) :
      (nullable .integer value).readOptional SqlValue.readInt = some value := by
    apply readOptional_nullable <;> simp [SqlValue.readInt]
  have times (value : Option Datetime) :
      (nullable (.timestamptz ·.micros) value).readOptional SqlValue.readDatetime = some value := by
    apply readOptional_nullable <;> simp [SqlValue.readDatetime, Datetime.ofMicros_micros]
  simp [modelValidate, modelDump, texts, floats, ints, times, SqlValue.readText,
    SqlValue.readBool, SqlValue.readDatetime, Datetime.ofMicros_micros]

theorem EnrichedFlight.modelDump_injective : Function.Injective EnrichedFlight.modelDump := by
  intro first second same
  have read := congrArg modelValidate same
  simpa only [modelValidate_modelDump, Option.some.injEq] using read

end FlightHub
