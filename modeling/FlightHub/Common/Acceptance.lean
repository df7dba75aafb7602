import FlightHub.Common.Models
import Mathlib.Data.List.GetD

/-! Which raw arrays `StateVector.from_array` accepts, and what the accepted
state holds: each field is its own reader applied to the element at the
documented index. -/
namespace FlightHub
open Python

/-- The arguments by index, an absent element being `null`. Only the category
can be absent from an array which is long enough. -/
def StateVector.Arguments.ofArray (items : List Json) : Arguments where
  icao24 := items.getD Index.icao24 .null
  callsign := stripCallsign (items.getD Index.callsign .null)
  originCountry := items.getD Index.originCountry .null
  timePosition := items.getD Index.timePosition .null
  lastContact := items.getD Index.lastContact .null
  longitude := items.getD Index.longitude .null
  latitude := items.getD Index.latitude .null
  baroAltitude := items.getD Index.baroAltitude .null
  onGround := (items.getD Index.onGround .null).truthy
  velocity := items.getD Index.velocity .null
  trueTrack := items.getD Index.trueTrack .null
  verticalRate := items.getD Index.verticalRate .null
  sensors := items.getD Index.sensors .null
  geoAltitude := items.getD Index.geoAltitude .null
  squawk := items.getD Index.squawk .null
  spi := (items.getD Index.spi .null).truthy
  positionSource := items.getD Index.positionSource .null
  category := items.getD Index.category .null

/-- Each field is what its reader makes of its argument. -/
structure StateVector.Arguments.Reads (pydantic : Pydantic) (arguments : Arguments)
    (state : StateVector) : Prop where
  icao24 : pydantic.str arguments.icao24 = some state.icao24
  callsign : optional pydantic.str arguments.callsign = some state.callsign
  originCountry : pydantic.str arguments.originCountry = some state.originCountry
  timePosition : optional pydantic.int arguments.timePosition = some state.timePosition
  lastContact : optional pydantic.int arguments.lastContact = some state.lastContact
  longitude : optional pydantic.float arguments.longitude = some state.longitude
  latitude : optional pydantic.float arguments.latitude = some state.latitude
  baroAltitude : optional pydantic.float arguments.baroAltitude = some state.baroAltitude
  onGround : arguments.onGround = state.onGround
  velocity : optional pydantic.float arguments.velocity = some state.velocity
  trueTrack : optional pydantic.float arguments.trueTrack = some state.trueTrack
  verticalRate : optional pydantic.float arguments.verticalRate = some state.verticalRate
  sensors : optional pydantic.listInt arguments.sensors = some state.sensors
  geoAltitude : optional pydantic.float arguments.geoAltitude = some state.geoAltitude
  squawk : optional pydantic.str arguments.squawk = some state.squawk
  spi : arguments.spi = state.spi
  positionSource : optional pydantic.int arguments.positionSource = some state.positionSource
  category : optional pydantic.int arguments.category = some state.category

theorem StateVector.Arguments.reads_of_read {pydantic : Pydantic} {arguments : Arguments}
    {state : StateVector} (read : arguments.read pydantic = some state) :
    arguments.Reads pydantic state := by
  unfold Arguments.read at read
  obtain ⟨_, icao24, read⟩ := Option.bind_eq_some_iff.mp read
  obtain ⟨_, callsign, read⟩ := Option.bind_eq_some_iff.mp read
  obtain ⟨_, originCountry, read⟩ := Option.bind_eq_some_iff.mp read
  obtain ⟨_, timePosition, read⟩ := Option.bind_eq_some_iff.mp read
  obtain ⟨_, lastContact, read⟩ := Option.bind_eq_some_iff.mp read
  obtain ⟨_, longitude, read⟩ := Option.bind_eq_some_iff.mp read
  obtain ⟨_, latitude, read⟩ := Option.bind_eq_some_iff.mp read
  obtain ⟨_, baroAltitude, read⟩ := Option.bind_eq_some_iff.mp read
  obtain ⟨_, velocity, read⟩ := Option.bind_eq_some_iff.mp read
  obtain ⟨_, trueTrack, read⟩ := Option.bind_eq_some_iff.mp read
  obtain ⟨_, verticalRate, read⟩ := Option.bind_eq_some_iff.mp read
  obtain ⟨_, sensors, read⟩ := Option.bind_eq_some_iff.mp read
  obtain ⟨_, geoAltitude, read⟩ := Option.bind_eq_some_iff.mp read
  obtain ⟨_, squawk, read⟩ := Option.bind_eq_some_iff.mp read
  obtain ⟨_, positionSource, read⟩ := Option.bind_eq_some_iff.mp read
  obtain ⟨_, category, read⟩ := Option.bind_eq_some_iff.mp read
  cases read
  exact ⟨icao24, callsign, originCountry, timePosition, lastContact, longitude, latitude,
    baroAltitude, rfl, velocity, trueTrack, verticalRate, sensors, geoAltitude, squawk, rfl,
    positionSource, category⟩

namespace StateVector
variable {pydantic : Pydantic} {items : List Json} {state : StateVector}

theorem item_getD {index : Nat} (bound : index < items.length) :
    Json.item index (.arr items) = .ok (items.getD index .null) := by
  simp [Json.item, List.getD_eq_getElem?_getD, List.getElem?_eq_getElem bound]

theorem fromArray_long (long : Index.minLength ≤ items.length) :
    fromArray pydantic (.arr items) = validate pydantic (.ofArray items) := by
  have item (index : Nat) (bound : index < Index.minLength) :
      Json.item index (.arr items) = .ok (items.getD index .null) :=
    item_getD (Nat.lt_of_lt_of_le bound long)
  by_cases present : Index.category < items.length
  · have category := item_getD present
    unfold fromArray
    simp (disch := decide) only [Json.len, bind, Except.bind, Nat.not_lt.mpr long, if_false, item,
      gt_iff_lt, present, if_true, category, Arguments.ofArray]
  · have category := List.getD_eq_default items Json.null (Nat.not_lt.mp present)
    unfold fromArray
    simp (disch := decide) only [Json.len, bind, Except.bind, pure, Except.pure,
      Nat.not_lt.mpr long, if_false, item, gt_iff_lt, present, category, Arguments.ofArray]

theorem fromArray_short (short : items.length < Index.minLength) :
    ∃ message, fromArray pydantic (.arr items) = .error (.valueError message) := by
  unfold fromArray
  simp [Json.len, bind, Except.bind, short, throw, throwThe, MonadExceptOf.throw]

theorem fromArray_ok_iff :
    fromArray pydantic (.arr items) = .ok state ↔
      Index.minLength ≤ items.length ∧ (Arguments.ofArray items).read pydantic = some state := by
  rcases Nat.lt_or_ge items.length Index.minLength with short | long
  · obtain ⟨message, failed⟩ := @fromArray_short pydantic items short
    simp [failed, Nat.not_le.mpr short]
  · rw [fromArray_long long, validate]
    cases (Arguments.ofArray items).read pydantic <;> simp [long]

theorem reads_of_accepted (accepted : fromArray pydantic (.arr items) = .ok state) :
    (Arguments.ofArray items).Reads pydantic state :=
  Arguments.reads_of_read (fromArray_ok_iff.mp accepted).2

end StateVector

/-! ### The types of the fields -/

inductive FieldType where
  | str
  | int
  | float
  | bool
  | ints
  | optional (type : FieldType)

def Python.Json.isInt : Json → Bool
  | .int _ => true
  | _ => false

/-- A JSON value of the type. An integer is a float as well, in the range of a double. -/
def FieldType.has : FieldType → Json → Bool
  | .str, .str _ => true
  | .int, value => value.isInt
  | .float, .float _ => true
  | .float, .int n => n.natAbs < doubleOverflow
  | .bool, .bool _ => true
  | .ints, .arr items => items.all Json.isInt
  | .optional _, .null => true
  | .optional type, value => type.has value
  | _, _ => false

/-- pydantic makes a value of the type of it. -/
def Pydantic.makes (pydantic : Pydantic) : FieldType → Json → Bool
  | .str, value => (pydantic.str value).isSome
  | .int, value => (pydantic.int value).isSome
  | .float, value => (pydantic.float value).isSome
  | .bool, value => FieldType.bool.has value
  | .ints, value => (pydantic.listInt value).isSome
  | .optional _, .null => true
  | .optional type, value => pydantic.makes type value

/-- In its lax mode pydantic reads an integer as a float wherever one is in range,
and a text is no list. -/
structure Pydantic.Lax (pydantic : Pydantic) : Prop extends pydantic.Lawful where
  float_range : ∀ n : Int, n.natAbs < doubleOverflow → (pydantic.float (.int n)).isSome = true
  listInt_str : ∀ text, pydantic.listInt (.str text) = none

theorem Pydantic.strict_lax : Pydantic.strict.Lax where
  toLawful := strict_lawful
  float_range _ _ := rfl
  listInt_str _ := rfl

theorem Python.Json.exists_ints {items : List Json} (ints : items.all Json.isInt = true) :
    ∃ ns : List Int, items = ns.map .int := by
  induction items with
  | nil => exact ⟨[], rfl⟩
  | cons item rest ih =>
    rw [List.all_cons, Bool.and_eq_true] at ints
    obtain ⟨ns, rfl⟩ := ih ints.2
    cases item with
    | int n => exact ⟨n :: ns, rfl⟩
    | _ => cases ints.1

/-- pydantic accepts the values of a type. -/
theorem Pydantic.Lax.makes {pydantic : Pydantic} (lax : pydantic.Lax) {type : FieldType} {value : Json}
    (has : type.has value = true) : pydantic.makes type value = true := by
  induction type with
  | str =>
    cases value with
    | str text => rw [Pydantic.makes, lax.str_str, Option.isSome_some]
    | _ => cases has
  | int =>
    cases value with
    | int n => rw [Pydantic.makes, lax.int_int, Option.isSome_some]
    | _ => cases has
  | float =>
    cases value with
    | float x => rw [Pydantic.makes, lax.float_float, Option.isSome_some]
    | int n => exact lax.float_range n (of_decide_eq_true has)
    | _ => cases has
  | bool => exact has
  | ints =>
    cases value with
    | arr items =>
      obtain ⟨ns, rfl⟩ := Json.exists_ints has
      rw [Pydantic.makes, lax.listInt_ints, Option.isSome_some]
    | _ => cases has
  | optional type ih =>
    cases value with
    | null => rfl
    | _ => exact ih has

namespace StateVector

def fieldTypes : List (Nat × FieldType) := [
  (Index.icao24, .str), (Index.callsign, .optional .str), (Index.originCountry, .str),
  (Index.timePosition, .optional .int), (Index.lastContact, .optional .int),
  (Index.longitude, .optional .float), (Index.latitude, .optional .float),
  (Index.baroAltitude, .optional .float), (Index.onGround, .bool), (Index.velocity, .optional .float),
  (Index.trueTrack, .optional .float), (Index.verticalRate, .optional .float),
  (Index.sensors, .optional .ints), (Index.geoAltitude, .optional .float),
  (Index.squawk, .optional .str), (Index.spi, .bool), (Index.positionSource, .optional .int),
  (Index.category, .optional .int)]

/-- The elements have the types of the fields, the category also if it is absent. -/
def typed (items : List Json) : Bool :=
  fieldTypes.all fun (index, type) => type.has (items.getD index .null)

/-- The fields whose elements `from_array` hands on as they are; it reads the
callsign, `on_ground` and `spi` whatever they are. -/
def givenTypes : List (Nat × FieldType) :=
  fieldTypes.filter fun field => field.1 ∉ [Index.callsign, Index.onGround, Index.spi]

/-- pydantic makes something of every element which it is given. -/
def coercible (pydantic : Pydantic) (items : List Json) : Bool :=
  givenTypes.all fun (index, type) => pydantic.makes type (items.getD index .null)

variable {pydantic : Pydantic} {items : List Json}

theorem makes_optional {type : FieldType} {read : Json → Option α}
    (makes : ∀ value, pydantic.makes type value = (read value).isSome) (value : Json) :
    pydantic.makes (.optional type) value = (optional read value).isSome := by
  cases value with
  | null => rfl
  | _ => exact (makes _).trans Option.isSome_map.symm

theorem optional_stripCallsign (lawful : pydantic.Lawful) (value : Json) :
    (optional pydantic.str (stripCallsign value)).isSome = true := by
  cases value with
  | str text => simp [stripCallsign, optional, lawful.str_str]
  | _ => rfl

/-- The elements decide one by one whether the array is accepted. -/
theorem coercible_iff (lawful : pydantic.Lawful) :
    coercible pydantic items = true ↔ ∃ state, (Arguments.ofArray items).read pydantic = some state := by
  have str := makes_optional fun value => (rfl : pydantic.makes .str value = _)
  have int := makes_optional fun value => (rfl : pydantic.makes .int value = _)
  have float := makes_optional fun value => (rfl : pydantic.makes .float value = _)
  have ints := makes_optional fun value => (rfl : pydantic.makes .ints value = _)
  have given : coercible pydantic items = ([(Index.icao24, .str), (Index.originCountry, .str),
      (Index.timePosition, .optional .int), (Index.lastContact, .optional .int),
      (Index.longitude, .optional .float), (Index.latitude, .optional .float),
      (Index.baroAltitude, .optional .float), (Index.velocity, .optional .float),
      (Index.trueTrack, .optional .float), (Index.verticalRate, .optional .float),
      (Index.sensors, .optional .ints), (Index.geoAltitude, .optional .float),
      (Index.squawk, .optional .str), (Index.positionSource, .optional .int),
      (Index.category, .optional .int)] : List (Nat × FieldType)).all fun (index, type) =>
        pydantic.makes type (items.getD index .null) := rfl
  rw [given]
  simp only [List.all_cons, List.all_nil, str, int, float, ints, Pydantic.makes, Bool.and_eq_true,
    Option.isSome_iff_exists]
  constructor
  · rintro ⟨⟨_, icao24⟩, ⟨_, originCountry⟩, ⟨_, timePosition⟩, ⟨_, lastContact⟩, ⟨_, longitude⟩,
      ⟨_, latitude⟩, ⟨_, baroAltitude⟩, ⟨_, velocity⟩, ⟨_, trueTrack⟩, ⟨_, verticalRate⟩, ⟨_, sensors⟩,
      ⟨_, geoAltitude⟩, ⟨_, squawk⟩, ⟨_, positionSource⟩, ⟨_, category⟩, -⟩
    obtain ⟨_, callsign⟩ := Option.isSome_iff_exists.mp
      (optional_stripCallsign lawful (items.getD Index.callsign .null))
    simp only [Arguments.read, Arguments.ofArray, icao24, callsign, originCountry, timePosition,
      lastContact, longitude, latitude, baroAltitude, velocity, trueTrack, verticalRate, sensors,
      geoAltitude, squawk, positionSource, category, bind, Option.bind, Option.some.injEq, exists_eq']
  · rintro ⟨state, read⟩
    have reads := Arguments.reads_of_read read
    exact ⟨⟨_, reads.icao24⟩, ⟨_, reads.originCountry⟩, ⟨_, reads.timePosition⟩, ⟨_, reads.lastContact⟩,
      ⟨_, reads.longitude⟩, ⟨_, reads.latitude⟩, ⟨_, reads.baroAltitude⟩, ⟨_, reads.velocity⟩,
      ⟨_, reads.trueTrack⟩, ⟨_, reads.verticalRate⟩, ⟨_, reads.sensors⟩, ⟨_, reads.geoAltitude⟩,
      ⟨_, reads.squawk⟩, ⟨_, reads.positionSource⟩, ⟨_, reads.category⟩, trivial⟩

theorem coercible_of_typed (lax : pydantic.Lax) (typed : typed items = true) :
    coercible pydantic items = true := by
  refine List.all_eq_true.mpr fun field member => ?_
  exact lax.makes (List.all_eq_true.mp typed field (List.mem_filter.mp member).1)

/-- An array of the field types is accepted. -/
theorem fromArray_typed (lax : pydantic.Lax) (long : Index.minLength ≤ items.length)
    (typed : typed items = true) : ∃ state, fromArray pydantic (.arr items) = .ok state := by
  obtain ⟨state, read⟩ := (coercible_iff lax.toLawful).mp (coercible_of_typed lax typed)
  exact ⟨state, fromArray_ok_iff.mpr ⟨long, read⟩⟩

end StateVector
end FlightHub
