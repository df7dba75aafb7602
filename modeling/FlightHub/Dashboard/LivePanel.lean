import FlightHub.Common.Config
import FlightHub.Common.Models
import FlightHub.Dashboard.Colors
import FlightHub.Dashboard.Snapshot
import FlightHub.Streamlit.Page
import Mathlib.Data.List.Forall2

/-! The live map and table, `_live_panel` of `dashboard/app.py`, over what the
snapshot query returned. The columns of the frame come from its records, so an
empty snapshot makes a frame without the columns which the map asks for. -/
namespace FlightHub
open Python Streamlit Tabular

namespace Dashboard

/-- What the script can raise. -/
inductive Fault where
  | python (exception : Exception)
  /-- `psycopg.OperationalError`. -/
  | operationalError
  /-- What Streamlit raises in place of an exception of a fragment. -/
  | fragmentHandled
deriving DecidableEq

inductive Cell where
  | str (value : String)
  | float (value : ℚ)
  | bool (value : Bool)
  | datetime (value : Datetime)
  | color (channels : List Int)

abbrev Page (α : Type) := Streamlit.Page Fault Json Cell α

def ofExcept {α : Type} : Except Exception α → Page α
  | .ok value => pure value
  | .error exception => Page.raise (.python exception)

def weatherCodeDescriptions : List (Int × String) := [
  (0, "Clear sky"), (1, "Mainly clear"), (2, "Partly cloudy"), (3, "Overcast"),
  (45, "Fog"), (48, "Depositing rime fog"),
  (51, "Light drizzle"), (53, "Moderate drizzle"), (55, "Dense drizzle"),
  (61, "Slight rain"), (63, "Moderate rain"), (65, "Heavy rain"),
  (71, "Slight snow"), (73, "Moderate snow"), (75, "Heavy snow"),
  (80, "Slight rain showers"), (81, "Moderate rain showers"), (82, "Violent rain showers"),
  (95, "Thunderstorm"), (96, "Thunderstorm, slight hail"), (99, "Thunderstorm, heavy hail")]

def weatherDescription : Option Int → String
  | none => "Unknown"
  | some code => (weatherCodeDescriptions.lookup code).getD s!"WMO code {code}"

def flightRecord (flight : EnrichedFlight) : Except Exception (Record String Cell) := do
  let color ← altitudeColor flight.baroAltitude
  return [
    ("icao24", some (.str flight.icao24)),
    ("callsign", some (.str (flight.callsign.getD ""))),
    ("origin_country", some (.str flight.originCountry)),
    ("latitude", flight.latitude.map .float),
    ("longitude", flight.longitude.map .float),
    ("altitude_m", flight.baroAltitude.map .float),
    ("on_ground", some (.bool flight.onGround)),
    ("velocity_ms", flight.velocity.map .float),
    ("vertical_rate_ms", flight.verticalRate.map .float),
    ("weather_temp_c", flight.weatherTemperatureC.map .float),
    ("weather_wind_kmh", flight.weatherWindSpeedKmh.map .float),
    ("weather", some (.str (weatherDescription flight.weatherCode))),
    ("fetched_at", some (.datetime flight.fetchedAt)),
    ("color", some (.color color))]

def flightsDataframe (flights : List EnrichedFlight) : Except Exception (Frame String Cell) := do
  let records ← flights.mapM flightRecord
  return fromRecords records

/-- `str` of a list of column names. -/
def quoted (columns : List String) : String :=
  "[" ++ ", ".intercalate (columns.map fun column => "'" ++ column ++ "'") ++ "]"

/-- `df.dropna(subset=...)`. -/
def dropna (df : Frame String Cell) (subset : List String) : Except Exception (Frame String Cell) :=
  (df.dropna subset).mapError fun missing => .keyError (quoted missing)

/-- `df.drop(columns=...)`. -/
def drop (df : Frame String Cell) (columns : List String) : Except Exception (Frame String Cell) :=
  (df.drop columns).mapError fun missing => .keyError (quoted missing ++ " not found in axis")

def mapLayer (plottable : Frame String Cell) : Layer Cell where
  kind := "ScatterplotLayer"
  data := plottable
  getPosition := ["longitude", "latitude"]
  getFillColor := "color"
  getRadius := 2500
  pickable := true
  opacity := 4 / 5

def viewState (settings : Settings) : ViewState where
  latitude := (settings.openskyLamin + settings.openskyLamax) / 2
  longitude := (settings.openskyLomin + settings.openskyLomax) / 2
  zoom := 63 / 10

def tooltip : Tooltip where
  html := "<b>{callsign}</b> ({icao24})<br/>" ++
    "Altitude: {altitude_m} m &nbsp; Velocity: {velocity_ms} m/s<br/>" ++
    "Weather: {weather}, {weather_temp_c}&deg;C, wind {weather_wind_kmh} km/h"
  style := [("backgroundColor", "steelblue"), ("color", "white")]

def noPosition : String := "No aircraft with a known position to display."

def renderMap (df : Frame String Cell) (settings : Settings) : Page Unit := do
  let plottable ← ofExcept (dropna df ["latitude", "longitude"])
  if plottable.empty then Page.emit (.info noPosition)
  else Page.emit (.pydeckChart ⟨[mapLayer plottable], viewState settings, tooltip, none⟩)

def twoDigits (n : Int) : String := if n < 10 then "0" ++ toString n else toString n

/-- `format(time, "%H:%M:%S")`. -/
def timeOfDay (time : Datetime) : String :=
  let seconds := time.micros / 1000000 % 86400
  twoDigits (seconds / 3600) ++ ":" ++ twoDigits (seconds / 60 % 60) ++ ":" ++ twoDigits (seconds % 60)

/-- `int(x)`, which cuts towards zero. -/
def truncate (x : ℚ) : Int := x.num.tdiv x.den

def refreshCaption (settings : Settings) (now : Datetime) (aircraft : Nat) : String :=
  s!"Last refreshed {timeOfDay now} UTC — " ++
  s!"{aircraft} aircraft tracked (auto-refreshes every " ++
  s!"{truncate settings.dashboardRefreshSeconds}s)"

/-- One pass at `now`, over what the query returned or raised. -/
def livePanel (settings : Settings) (now : Datetime) (fetched : Except Fault (List EnrichedFlight)) :
    Page Unit := do
  let flights ← match fetched with
    | .ok flights => pure flights
    | .error fault => Page.raise fault
  let df ← ofExcept (flightsDataframe flights)
  Page.emit (.caption (refreshCaption settings now flights.length))
  renderMap df settings
  Page.expander s!"Flight + weather table ({df.rows.length} rows)" false do
    let table ← ofExcept (drop df ["color"])
    Page.emit (.dataframe table true)

/-! ### What a pass should show -/

def located (flight : EnrichedFlight) : Bool := flight.latitude.isSome && flight.longitude.isSome

/-- One row per flight, in the same order. -/
def Describes (flights : List EnrichedFlight) (rows : List (Record String Cell)) : Prop :=
  List.Forall₂ (fun flight row => flightRecord flight = .ok row) flights rows

inductive MapShows (settings : Settings) (flights : List EnrichedFlight) : Element Cell → Prop where
  | chart {plottable : Frame String Cell} (found : ∃ flight ∈ flights, located flight = true)
      (plotted : Describes (flights.filter located) plottable.rows) :
      MapShows settings flights (.pydeckChart ⟨[mapLayer plottable], viewState settings, tooltip, none⟩)
  | info (lost : ∀ flight ∈ flights, located flight = false) :
      MapShows settings flights (.info noPosition)

/-- The rows describe the flights, without their colours. -/
def Lists (flights : List EnrichedFlight) (table : Frame String Cell) : Prop :=
  ∃ rows, Describes flights rows ∧ table.rows = rows.map (Record.without ["color"])

/-- A pass ends without an exception and shows its caption, the map and the table. -/
def Renders (settings : Settings) (now : Datetime) (flights : List EnrichedFlight)
    (screen : Screen Json Cell) : Prop :=
  ∃ shownMap table, MapShows settings flights shownMap ∧ Lists flights table ∧
    (livePanel settings now (.ok flights)).run screen =
      (.ok (), { screen with elements := screen.elements ++
        [.caption (refreshCaption settings now flights.length), shownMap,
          .expander s!"Flight + weather table ({flights.length} rows)" false [.dataframe table true]] })

/-! ### Records -/

def flightColumns : List String := ["icao24", "callsign", "origin_country", "latitude", "longitude",
  "altitude_m", "on_ground", "velocity_ms", "vertical_rate_ms", "weather_temp_c", "weather_wind_kmh",
  "weather", "fetched_at", "color"]

section Records
variable {flight : EnrichedFlight} {flights : List EnrichedFlight} {row : Record String Cell}
  {rows : List (Record String Cell)}

theorem exists_flightRecord (flight : EnrichedFlight) : ∃ row, flightRecord flight = .ok row := by
  obtain ⟨color, colored⟩ := exists_altitudeColor flight.baroAltitude
  rw [flightRecord, colored]
  exact ⟨_, rfl⟩

theorem flightRecord_spec (recorded : flightRecord flight = .ok row) : row.columns = flightColumns ∧
    row.get "latitude" = flight.latitude.map .float ∧ row.get "longitude" = flight.longitude.map .float := by
  obtain ⟨color, colored⟩ := exists_altitudeColor flight.baroAltitude
  rw [flightRecord, colored] at recorded
  cases recorded
  exact ⟨rfl, rfl, rfl⟩

/-- The rows which `dropna` keeps are those of the flights with a position. -/
theorem flightRecord_located (recorded : flightRecord flight = .ok row) :
    located flight = ["latitude", "longitude"].all fun column => (row.get column).isSome := by
  obtain ⟨-, latitude, longitude⟩ := flightRecord_spec recorded
  simp [located, latitude, longitude]

theorem exists_records (flights : List EnrichedFlight) :
    ∃ rows, flights.mapM flightRecord = .ok rows ∧ Describes flights rows := by
  induction flights with
  | nil => exact ⟨[], rfl, .nil⟩
  | cons flight rest ih =>
    obtain ⟨row, recorded⟩ := exists_flightRecord flight
    obtain ⟨rows, mapped, described⟩ := ih
    refine ⟨row :: rows, ?_, .cons recorded described⟩
    rw [List.mapM_cons, recorded, mapped]
    rfl

theorem Describes.columns (described : Describes flights rows) :
    ∀ row ∈ rows, Record.columns row = flightColumns := by
  induction described with
  | nil => exact fun row member => absurd member List.not_mem_nil
  | cons recorded _ ih => exact List.forall_mem_cons.mpr ⟨(flightRecord_spec recorded).1, ih⟩

theorem Describes.filter (described : Describes flights rows) :
    Describes (flights.filter located)
      (rows.filter fun row => ["latitude", "longitude"].all fun column => (row.get column).isSome) :=
  List.rel_filter (fun _ _ recorded => Bool.eq_iff_iff.mp (flightRecord_located recorded)) described

end Records

/-! ### A pass -/

section Pass
variable {settings : Settings} {now : Datetime} {flights : List EnrichedFlight} {screen : Screen Json Cell}
  {df plottable table : Frame String Cell} {rows : List (Record String Cell)}

theorem run_ofExcept_ok {α : Type} {value : α} {result : Except Exception α} (ok : result = .ok value) :
    (ofExcept result).run screen = (.ok value, screen) := by
  subst ok
  rfl

theorem run_ofExcept_error {α : Type} {exception : Exception} {result : Except Exception α}
    (failed : result = .error exception) :
    (ofExcept result).run screen = (.error (.raised (.python exception)), screen) := by
  subst failed
  exact Page.run_raise _ _

/-- The frame of a snapshot which is not empty. -/
theorem exists_flightsDataframe (nonempty : flights ≠ []) : ∃ df rows, flightsDataframe flights = .ok df ∧
    Describes flights rows ∧ df.columns = flightColumns ∧ df.rows = rows := by
  obtain ⟨rows, mapped, described⟩ := exists_records flights
  have some : rows ≠ [] := by
    rintro rfl
    cases described
    exact nonempty rfl
  refine ⟨fromRecords rows, rows, ?_, described, fromRecords_columns some described.columns,
    fromRecords_rows (by decide) described.columns⟩
  rw [flightsDataframe, mapped]
  rfl

theorem exists_dropna (columns : df.columns = flightColumns) :
    ∃ plottable, dropna df ["latitude", "longitude"] = .ok plottable ∧ plottable.columns = flightColumns ∧
      plottable.rows = df.rows.filter fun row =>
        ["latitude", "longitude"].all fun column => (row.get column).isSome := by
  have present : ["latitude", "longitude"] ⊆ df.columns := by
    rw [columns]
    decide
  obtain ⟨plottable, ok, same, rows⟩ := dropna_ok present
  exact ⟨plottable, by rw [dropna, ok]; rfl, same.trans columns, rows⟩

theorem exists_drop (columns : df.columns = flightColumns) :
    ∃ table, drop df ["color"] = .ok table ∧ table.rows = df.rows.map (Record.without ["color"]) := by
  have present : ["color"] ⊆ df.columns := by
    rw [columns]
    decide
  obtain ⟨table, ok, -, rows⟩ := drop_ok present
  exact ⟨table, by rw [drop, ok]; rfl, rows⟩

theorem run_renderMap (columns : df.columns = flightColumns) (described : Describes flights df.rows)
    (settings : Settings) (screen : Screen Json Cell) : ∃ shownMap, MapShows settings flights shownMap ∧
      (renderMap df settings).run screen =
        (.ok (), { screen with elements := screen.elements ++ [shownMap] }) := by
  obtain ⟨plottable, dropped, kept, rows⟩ := exists_dropna columns
  have plotted := described.filter
  rw [← rows] at plotted
  have run : (renderMap df settings).run screen = (if plottable.empty then Page.emit (.info noPosition)
      else Page.emit (.pydeckChart ⟨[mapLayer plottable], viewState settings, tooltip, none⟩)).run screen :=
    Page.run_bind_ok (run_ofExcept_ok dropped)
  rw [run]
  cases empty : plottable.empty with
  | true =>
    have none : plottable.rows = [] := by simpa [Frame.empty, kept, flightColumns] using empty
    rw [none] at plotted
    have lost : flights.filter located = [] := List.forall₂_nil_right_iff.mp plotted
    refine ⟨_, .info fun flight member => ?_, rfl⟩
    simpa using List.filter_eq_nil_iff.mp lost flight member
  | false =>
    have some : plottable.rows ≠ [] := by
      simp only [Frame.empty, Bool.or_eq_false_iff, List.isEmpty_eq_false_iff] at empty
      exact empty.2
    have found : flights.filter located ≠ [] := by
      intro none
      rw [none] at plotted
      exact some (List.forall₂_nil_left_iff.mp plotted)
    obtain ⟨flight, member⟩ := List.exists_mem_of_ne_nil _ found
    exact ⟨_, .chart ⟨flight, List.mem_filter.mp member⟩ plotted, rfl⟩

theorem keepsSession_ofExcept {α : Type} (result : Except Exception α) :
    (ofExcept result).KeepsSession := by
  cases result with
  | ok value => exact Page.keepsSession_pure value
  | error exception => exact Page.keepsSession_interrupt _

theorem keepsSession_renderMap (df : Frame String Cell) (settings : Settings) :
    (renderMap df settings).KeepsSession := by
  refine (keepsSession_ofExcept _).bind fun plottable => ?_
  split
  · exact Page.keepsSession_emit _
  · exact Page.keepsSession_emit _

theorem keepsSession_livePanel (settings : Settings) (now : Datetime)
    (fetched : Except Fault (List EnrichedFlight)) : (livePanel settings now fetched).KeepsSession := by
  cases fetched with
  | error fault => exact fun screen => rfl
  | ok flights =>
    refine (Page.keepsSession_pure flights).bind fun flights => ?_
    refine (keepsSession_ofExcept _).bind fun df => (Page.keepsSession_emit _).bind fun _ => ?_
    refine (keepsSession_renderMap df settings).bind fun _ => Page.KeepsSession.expander ?_ _ _
    exact (keepsSession_ofExcept _).bind fun table => Page.keepsSession_emit _

theorem run_livePanel (nonempty : flights ≠ []) (settings : Settings) (now : Datetime)
    (screen : Screen Json Cell) : Renders settings now flights screen := by
  obtain ⟨df, rows, framed, described, columns, same⟩ := exists_flightsDataframe nonempty
  subst same
  obtain ⟨table, dropped, listed⟩ := exists_drop columns
  obtain ⟨shownMap, shows, ran⟩ := run_renderMap columns described settings
    { screen with elements := screen.elements ++ [.caption (refreshCaption settings now flights.length)] }
  have body (start : Screen Json Cell) :
      (do let table ← ofExcept (drop df ["color"]); Page.emit (.dataframe table true) : Page Unit).run
        { start with elements := [] } = (.ok (), { start with elements := [.dataframe table true] }) :=
    Page.run_bind_ok (run_ofExcept_ok dropped)
  refine ⟨shownMap, table, shows, ⟨df.rows, described, listed⟩, ?_⟩
  calc (livePanel settings now (.ok flights)).run screen
      = _ := Page.run_bind_ok (Page.run_pure flights screen)
    _ = _ := Page.run_bind_ok (run_ofExcept_ok framed)
    _ = _ := Page.run_bind_ok (Page.run_emit _ _)
    _ = _ := Page.run_bind_ok ran
    _ = _ := Page.run_expander (body _) _ _
    _ = _ := by simp [described.length_eq]

/-- An empty snapshot makes a frame without columns. -/
theorem run_livePanel_nil (settings : Settings) (now : Datetime) (screen : Screen Json Cell) :
    (livePanel settings now (.ok [])).run screen =
      (.error (.raised (.python (.keyError "['latitude', 'longitude']"))),
        { screen with elements := screen.elements ++ [.caption (refreshCaption settings now 0)] }) := by
  have missing : (fromRecords ([] : List (Record String Cell))).missing ["latitude", "longitude"] =
      ["latitude", "longitude"] := missing_fromRecords_nil
  have failed : dropna (fromRecords []) ["latitude", "longitude"] =
      .error (.keyError "['latitude', 'longitude']") := by
    rw [dropna, dropna_error (by rw [missing]; exact List.cons_ne_nil _ _), missing]
    rfl
  calc (livePanel settings now (.ok [])).run screen
    _ = _ := Page.run_bind_ok (Page.run_pure [] screen)
    _ = _ := Page.run_bind_ok (run_ofExcept_ok rfl)
    _ = _ := Page.run_bind_ok (Page.run_emit _ _)
    _ = _ := Page.run_bind_error (Page.run_bind_error (run_ofExcept_error failed))

theorem not_renders_nil (settings : Settings) (now : Datetime) (screen : Screen Json Cell) :
    ¬ Renders settings now [] screen := by
  rintro ⟨shownMap, table, -, -, ran⟩
  rw [run_livePanel_nil] at ran
  cases ran

theorem renders_iff_nonempty (settings : Settings) (now : Datetime) (flights : List EnrichedFlight)
    (screen : Screen Json Cell) : Renders settings now flights screen ↔ flights ≠ [] := by
  constructor
  · rintro renders rfl
    exact not_renders_nil settings now screen renders
  · intro nonempty
    exact run_livePanel nonempty settings now screen

def firstVisit : Datetime := ⟨5418000000000, by decide, by decide⟩

/-- The snapshot is empty before the first upsert, and after an outage. -/
theorem not_renders_firstVisit : fetchCurrentFlights firstVisit.micros .empty = some [] ∧
    ¬ Renders {} firstVisit [] ⟨fun _ => none, []⟩ :=
  ⟨rfl, not_renders_nil _ _ _⟩

end Pass

end Dashboard

end FlightHub
