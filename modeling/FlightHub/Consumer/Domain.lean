import FlightHub.Common.Acceptance
import FlightHub.Consumer.Schema

/-! The three domains of a flight: what ingestion accepts, what can be
normalised and what the columns hold. `StateVector` bounds neither its integers
nor its texts, so acceptance does not imply the other two. -/
namespace FlightHub
open Python

/-- The values of an accepted array, and the weather code, lie in the ranges of
`datetime` and of the columns. -/
structure WithinColumns (pydantic : Pydantic) (items : List Json) (weather : Option WeatherReading) :
    Prop where
  times : ∀ index ∈ [Index.timePosition, Index.lastContact], ∀ ts,
    optional pydantic.int (items.getD index .null) = some (some ts) →
      minTimestamp ≤ ts ∧ ts ≤ maxTimestamp
  integers : ∀ index ∈ [Index.positionSource, Index.category], ∀ n,
    optional pydantic.int (items.getD index .null) = some (some n) → Int32 n
  texts : ∀ index ∈ [Index.icao24, Index.originCountry], ∀ text,
    pydantic.str (items.getD index .null) = some text → NulFree text
  callsign : ∀ text, optional pydantic.str (StateVector.stripCallsign
    (items.getD Index.callsign .null)) = some (some text) → NulFree text
  squawk : ∀ text, optional pydantic.str (items.getD Index.squawk .null) = some (some text) →
    NulFree text
  weatherCode : ∀ code, weather.bind WeatherReading.weatherCode = some code → Int32 code

/-- A value of every type but `datetime`, `float` and `bool` can be outside its column. -/
structure EnrichedFlight.InRange (flight : EnrichedFlight) : Prop where
  icao24 : NulFree flight.icao24
  callsign : ∀ text, flight.callsign = some text → NulFree text
  originCountry : NulFree flight.originCountry
  squawk : ∀ text, flight.squawk = some text → NulFree text
  positionSource : ∀ n, flight.positionSource = some n → Int32 n
  category : ∀ n, flight.category = some n → Int32 n
  weatherCode : ∀ code, flight.weatherCode = some code → Int32 code

theorem ColumnType.fits_nullable {type : ColumnType} {write : α → SqlValue} {value : Option α} :
    type.Fits (nullable write value) ↔ ∀ present, value = some present → type.Fits (write present) := by
  cases value with
  | none => simp [nullable, Fits]
  | some present => simp [nullable]

theorem Python.Datetime.fits (time : Datetime) : Timestamptz time.micros := by
  have after := time.after_first
  have before := time.before_last
  simp only [minTimestamp, maxTimestamp] at after before
  constructor <;> omega

theorem EnrichedFlight.fits_iff (flight : EnrichedFlight) :
    (∀ column : Column, column.Fits (flight.modelDump column)) ↔ flight.InRange := by
  constructor
  · intro fits
    have nullable_fits {α : Type} {write : α → SqlValue} {value : Option α} (column : Column)
        (dumped : flight.modelDump column = nullable write value) :
        ∀ present, value = some present → column.type.Fits (write present) :=
      ColumnType.fits_nullable.mp (dumped ▸ (fits column).1)
    exact ⟨(fits .icao24).1, nullable_fits .callsign rfl, (fits .originCountry).1,
      nullable_fits .squawk rfl, nullable_fits .positionSource rfl,
      nullable_fits .category rfl, nullable_fits .weatherCode rfl⟩
  · intro range column
    constructor
    · cases column with
      | icao24 => exact range.icao24
      | originCountry => exact range.originCountry
      | onGround => trivial
      | spi => trivial
      | fetchedAt => exact flight.fetchedAt.fits
      | callsign => exact ColumnType.fits_nullable.mpr range.callsign
      | squawk => exact ColumnType.fits_nullable.mpr range.squawk
      | positionSource => exact ColumnType.fits_nullable.mpr range.positionSource
      | category => exact ColumnType.fits_nullable.mpr range.category
      | weatherCode => exact ColumnType.fits_nullable.mpr range.weatherCode
      | timePosition => exact ColumnType.fits_nullable.mpr fun time _ => time.fits
      | lastContact => exact ColumnType.fits_nullable.mpr fun time _ => time.fits
      | _ => exact ColumnType.fits_nullable.mpr fun _ _ => trivial
    · cases column <;> simp [Column.notNull, modelDump]

theorem unixToDatetime_ok_iff {ts : Option Int} :
    (∃ time, unixToDatetime ts = .ok time) ↔
      ∀ seconds, ts = some seconds → minTimestamp ≤ seconds ∧ seconds ≤ maxTimestamp := by
  cases ts with
  | none => simp [unixToDatetime]
  | some seconds =>
    simp only [Option.some.injEq, forall_eq']
    rw [← fromtimestamp_ok_iff, unixToDatetime]
    cases fromtimestamp seconds <;> simp [Functor.map, Except.map]

def Storable (message : FlightMessage) (weather : Option WeatherReading) : Prop :=
  ∃ flight, EnrichedFlight.fromFlightMessage message weather = .ok flight ∧
    ∀ column : Column, column.Fits (flight.modelDump column)

theorem storable_of_within {pydantic : Pydantic} {items : List Json} {state : StateVector}
    (accepted : StateVector.fromArray pydantic (.arr items) = .ok state) (fetchedAt : Datetime)
    {weather : Option WeatherReading} (within : WithinColumns pydantic items weather) :
    Storable ⟨state, fetchedAt⟩ weather := by
  have reads := StateVector.reads_of_accepted accepted
  have position := unixToDatetime_ok_iff.mpr fun seconds known =>
    within.times Index.timePosition (by simp) seconds (known ▸ reads.timePosition)
  have contact := unixToDatetime_ok_iff.mpr fun seconds known =>
    within.times Index.lastContact (by simp) seconds (known ▸ reads.lastContact)
  obtain ⟨flight, made⟩ : ∃ flight, EnrichedFlight.fromFlightMessage ⟨state, fetchedAt⟩ weather =
      .ok flight := EnrichedFlight.fromFlightMessage_ok_iff.mpr ⟨position, contact⟩
  refine ⟨flight, made, flight.fits_iff.mpr ?_⟩
  obtain ⟨_, _, _, _, rfl⟩ := EnrichedFlight.fromFlightMessage_eq_ok.mp made
  constructor
  · exact within.texts Index.icao24 (by simp) _ reads.icao24
  · exact fun text known => within.callsign text (reads.callsign.trans (congrArg some known))
  · exact within.texts Index.originCountry (by simp) _ reads.originCountry
  · exact fun text known => within.squawk text (reads.squawk.trans (congrArg some known))
  · exact fun n known => within.integers Index.positionSource (by simp) n
      (reads.positionSource.trans (congrArg some known))
  · exact fun n known => within.integers Index.category (by simp) n
      (reads.category.trans (congrArg some known))
  · exact within.weatherCode

/-- An accepted array gives a storable flight exactly when its two times lie in
the years 1 to 9999, its integers and the weather code are 32-bit, and its texts
are free of NUL. -/
theorem accepted_storable_iff {pydantic : Pydantic} {items : List Json} {state : StateVector}
    (accepted : StateVector.fromArray pydantic (.arr items) = .ok state) (fetchedAt : Datetime)
    (weather : Option WeatherReading) :
    Storable ⟨state, fetchedAt⟩ weather ↔ WithinColumns pydantic items weather := by
  have reads := StateVector.reads_of_accepted accepted
  constructor
  · rintro ⟨flight, made, fits⟩
    have range := flight.fits_iff.mp fits
    obtain ⟨position, contact⟩ := EnrichedFlight.fromFlightMessage_ok_iff.mp ⟨flight, made⟩
    obtain ⟨_, _, _, _, rfl⟩ := EnrichedFlight.fromFlightMessage_eq_ok.mp made
    constructor
    · intro index listed ts given
      simp only [List.mem_cons, List.not_mem_nil, or_false] at listed
      rcases listed with rfl | rfl
      · exact unixToDatetime_ok_iff.mp position ts (Option.some.inj (reads.timePosition.symm.trans given))
      · exact unixToDatetime_ok_iff.mp contact ts (Option.some.inj (reads.lastContact.symm.trans given))
    · intro index listed n given
      simp only [List.mem_cons, List.not_mem_nil, or_false] at listed
      rcases listed with rfl | rfl
      · exact range.positionSource n (Option.some.inj (reads.positionSource.symm.trans given))
      · exact range.category n (Option.some.inj (reads.category.symm.trans given))
    · intro index listed text given
      simp only [List.mem_cons, List.not_mem_nil, or_false] at listed
      rcases listed with rfl | rfl
      · exact Option.some.inj (reads.icao24.symm.trans given) ▸ range.icao24
      · exact Option.some.inj (reads.originCountry.symm.trans given) ▸ range.originCountry
    · exact fun text given => range.callsign text (Option.some.inj (reads.callsign.symm.trans given))
    · exact fun text given => range.squawk text (Option.some.inj (reads.squawk.symm.trans given))
    · exact range.weatherCode
  · intro within
    exact storable_of_within accepted fetchedAt within

def fullState (category : Int) : List Json := [
  .str "4ca7b3", .str "ELY001  ", .str "Israel", .int 1735400000, .int 1735400005,
  .float (34777 / 1000), .float (32011 / 1000), .float 10668, .bool false, .float (2305 / 10),
  .float (882 / 10), .float 0, .null, .float 10972, .str "5051", .bool false, .int 0, .int category]

def pollTime : Datetime := ⟨1735400010000000, by decide, by decide⟩

theorem accepted_storable_full : ∃ state,
    StateVector.fromArray .strict (.arr (fullState 3)) = .ok state ∧
      (Storable ⟨state, pollTime⟩ none ↔ WithinColumns .strict (fullState 3) none) :=
  ⟨_, rfl, accepted_storable_iff rfl pollTime none⟩

/-- A category of 2^31 is accepted and published, and no column holds it. -/
theorem large_category_not_storable :
    ¬ ∀ pydantic : Pydantic, pydantic.Lawful → ∀ items state,
      StateVector.fromArray pydantic (.arr items) = .ok state →
        ∀ fetchedAt weather, Storable ⟨state, fetchedAt⟩ weather := by
  intro storable
  obtain ⟨flight, made, fits⟩ := storable .strict Pydantic.strict_lawful (fullState (2 ^ 31)) _ rfl
    pollTime none
  obtain ⟨_, _, _, _, rfl⟩ := EnrichedFlight.fromFlightMessage_eq_ok.mp made
  have category := (EnrichedFlight.fits_iff _).mp fits |>.category (2 ^ 31) rfl
  exact absurd category (by decide)

end FlightHub
