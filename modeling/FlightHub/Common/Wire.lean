import FlightHub.Common.Models

/-! The body of a queued message: `FlightMessage.model_dump_json`, which the
publisher sends, and `model_validate_json`, with which the consumer reads it, on
parsed JSON values. Only a text with a lone surrogate cannot be written, and a
`StateVector` here holds none. What pydantic writes and reads for a `bool` and a
`datetime` is not part of the repository. -/
namespace FlightHub
open Python

structure JsonMode extends Pydantic where
  bool : Json → Option Bool
  datetime : Json → Option Datetime
  isoFormat : Datetime → String

structure JsonMode.Lawful (mode : JsonMode) : Prop extends mode.toPydantic.Lawful where
  bool_bool : ∀ value, mode.bool (.bool value) = some value
  datetime_isoFormat : ∀ time, mode.datetime (.str (mode.isoFormat time)) = some time

def writeOptional (write : α → Json) (value : Option α) : Json := value.elim .null write

theorem optional_writeOptional {read : Json → Option α} {write : α → Json}
    (inverse : ∀ value, read (write value) = some value) (written : ∀ value, write value ≠ .null)
    (value : Option α) : optional read (writeOptional write value) = some value := by
  cases value with
  | none => rfl
  | some value =>
    have present := written value
    simp only [writeOptional, Option.elim_some]
    unfold optional
    split
    · next null => exact absurd null present
    · rw [inverse, Option.map_some]

section Fields
variable (mode : JsonMode)

def StateVector.modelDump (state : StateVector) : Json := .obj [
  ("icao24", .str state.icao24),
  ("callsign", writeOptional .str state.callsign),
  ("origin_country", .str state.originCountry),
  ("time_position", writeOptional .int state.timePosition),
  ("last_contact", writeOptional .int state.lastContact),
  ("longitude", writeOptional .float state.longitude),
  ("latitude", writeOptional .float state.latitude),
  ("baro_altitude", writeOptional .float state.baroAltitude),
  ("on_ground", .bool state.onGround),
  ("velocity", writeOptional .float state.velocity),
  ("true_track", writeOptional .float state.trueTrack),
  ("vertical_rate", writeOptional .float state.verticalRate),
  ("sensors", writeOptional (fun sensors => .arr (sensors.map .int)) state.sensors),
  ("geo_altitude", writeOptional .float state.geoAltitude),
  ("squawk", writeOptional .str state.squawk),
  ("spi", .bool state.spi),
  ("position_source", writeOptional .int state.positionSource),
  ("category", writeOptional .int state.category)]

/-- A field which is missing has its default: `None`, or false for a `bool`. -/
def StateVector.modelValidate : Json → Option StateVector
  | .obj fields => do
    let given (name : String) : Json := (fields.lookup name).getD .null
    Arguments.read mode.toPydantic {
      icao24 := ← fields.lookup "icao24"
      callsign := given "callsign"
      originCountry := ← fields.lookup "origin_country"
      timePosition := given "time_position"
      lastContact := given "last_contact"
      longitude := given "longitude"
      latitude := given "latitude"
      baroAltitude := given "baro_altitude"
      onGround := ← (fields.lookup "on_ground").elim (some false) mode.bool
      velocity := given "velocity"
      trueTrack := given "true_track"
      verticalRate := given "vertical_rate"
      sensors := given "sensors"
      geoAltitude := given "geo_altitude"
      squawk := given "squawk"
      spi := ← (fields.lookup "spi").elim (some false) mode.bool
      positionSource := given "position_source"
      category := given "category" }
  | _ => none

def FlightMessage.modelDump (message : FlightMessage) : Json := .obj [
  ("state", message.state.modelDump),
  ("fetched_at", .str (mode.isoFormat message.fetchedAt))]

/-- Without a `fetched_at` the message has the time at which it is read. -/
def FlightMessage.modelValidate (now : Datetime) : Json → Option FlightMessage
  | .obj fields => do
    let state ← StateVector.modelValidate mode (← fields.lookup "state")
    let fetchedAt ← (fields.lookup "fetched_at").elim (some now) mode.datetime
    some { state, fetchedAt }
  | _ => none

variable {mode}

theorem StateVector.modelValidate_modelDump (lawful : mode.Lawful) (state : StateVector) :
    modelValidate mode state.modelDump = some state := by
  have text (value : Option String) : optional mode.str (writeOptional .str value) = some value :=
    optional_writeOptional lawful.str_str (by simp) value
  have int (value : Option Int) : optional mode.int (writeOptional .int value) = some value :=
    optional_writeOptional lawful.int_int (by simp) value
  have float (value : Option ℚ) : optional mode.float (writeOptional .float value) = some value :=
    optional_writeOptional lawful.float_float (by simp) value
  have sensors : optional mode.listInt (writeOptional (fun ns => .arr (ns.map .int)) state.sensors) =
      some state.sensors := optional_writeOptional lawful.listInt_ints (by simp) state.sensors
  simp [modelValidate, modelDump, Arguments.read, List.lookup_cons, text, int, float, sensors,
    lawful.str_str, lawful.bool_bool]

/-- The consumer reads what the publisher was called with, whenever it reads it. -/
theorem FlightMessage.modelValidate_modelDump (lawful : mode.Lawful) (now : Datetime)
    (message : FlightMessage) : modelValidate mode now (message.modelDump mode) = some message := by
  simp [modelValidate, modelDump, List.lookup_cons, StateVector.modelValidate_modelDump lawful,
    lawful.datetime_isoFormat]

end Fields

/-- A time is written as pydantic does at the one instant which the samples use. -/
def JsonMode.sample : JsonMode where
  toPydantic := .strict
  bool
    | .bool value => some value
    | _ => none
  isoFormat time :=
    if time.micros = 1735400012000000 then "2024-12-28T15:33:32Z"
    else String.ofList ('@' :: Nat.toDigits 10 (time.micros - minTimestamp * 1000000).toNat)
  datetime
    | .str text =>
      match text.toList with
      | '@' :: digits => Datetime.ofMicros (Nat.ofDigitChars 10 digits 0 + minTimestamp * 1000000)
      | _ => Datetime.ofMicros 1735400012000000
    | _ => none

theorem JsonMode.sample_lawful : JsonMode.sample.Lawful where
  toLawful := Pydantic.strict_lawful
  bool_bool _ := rfl
  datetime_isoFormat time := by
    have instants := time.after_first
    by_cases sampled : time.micros = 1735400012000000
    · simp only [sample, if_pos sampled]
      exact sampled ▸ time.ofMicros_micros
    · simp only [sample, if_neg sampled, String.toList_ofList, Nat.ofDigitChars_ten_toDigits]
      rw [Int.toNat_of_nonneg (by omega), Int.sub_add_cancel, Datetime.ofMicros_micros]

end FlightHub
