import FlightHub.Common.Http
import FlightHub.Common.Models
import FlightHub.Transition.Run
import Mathlib.Algebra.Order.Field.Rat
import Mathlib.Logic.Function.Basic
import Mathlib.Tactic.Linarith

/-! Open-Meteo weather client with grid-cell caching, `consumer/weather.py`. Any
number of threads call `get_weather`; the clock read, the two locked accesses
and both ends of a fetch are steps of their own. Arithmetic is exact, save that
a quotient beyond the range of a double is infinite. -/
namespace FlightHub
open Python Transition

abbrev GridKey := ℚ × ℚ

structure WeatherClient where
  baseUrl : String := "https://api.open-meteo.com/v1/forecast"
  gridSizeDeg : ℚ := 1 / 4
  cacheTtlSeconds : ℚ := 600

namespace WeatherClient

structure Request where
  url : String
  latitude : ℚ
  longitude : ℚ
  current : String
deriving DecidableEq

section Functions
variable (client : WeatherClient) (pydantic : Pydantic)

def gridIndex (coordinate : ℚ) : Int := roundEven (coordinate / client.gridSizeDeg)

def gridKey (lat lon : ℚ) : GridKey :=
  (roundTo 4 (client.gridIndex lat * client.gridSizeDeg),
    roundTo 4 (client.gridIndex lon * client.gridSizeDeg))

def overflows (coordinate : ℚ) : Bool := doubleOverflow ≤ |coordinate / client.gridSizeDeg|

/-- `_grid_key`, with what the division and the rounding of its result raise. -/
def findGridKey (lat lon : ℚ) : Except Exception GridKey :=
  if client.gridSizeDeg = 0 then .error .zeroDivisionError
  else if client.overflows lat || client.overflows lon then .error .overflowError
  else .ok (client.gridKey lat lon)

def request (key : GridKey) : Request where
  url := client.baseUrl
  latitude := key.1
  longitude := key.2
  current := "temperature_2m,wind_speed_10m,wind_direction_10m,weather_code"

/-- `WeatherReading(...)` of the values which `current.get` finds. -/
def readCurrent (current : Json) : Except Exception WeatherReading := do
  let temperature ← current.get "temperature_2m"
  let windSpeed ← current.get "wind_speed_10m"
  let windDirection ← current.get "wind_direction_10m"
  let weatherCode ← current.get "weather_code"
  let time ← current.get "time"
  WeatherReading.validate pydantic {
    temperatureC := temperature.getD .null
    windSpeedKmh := windSpeed.getD .null
    windDirectionDeg := windDirection.getD .null
    weatherCode := weatherCode.getD .null
    observedAt := time.getD .null }

/-- One attempt of `_fetch_with_retry`. -/
def attempt (outcome : Http.Outcome) : Except Exception WeatherReading := do
  let payload ← outcome.json
  let current ← payload.field "current"
  readCurrent pydantic current

def isHttpError (exception : Exception) : Bool := exception = .httpError

def fetchWithRetry (exchange : Nat → Http.Outcome) : Except Exception WeatherReading :=
  Tenacity.retry isHttpError 3 fun k => attempt pydantic (exchange k)

def fetch (exchange : Nat → Http.Outcome) : Except Exception (Option WeatherReading) :=
  match fetchWithRetry pydantic exchange with
  | .ok reading => .ok (some reading)
  | .error exception => if isHttpError exception then .ok none else .error exception

end Functions

abbrev CallId := Nat

/-- A value of the dict `_cache`; `stamp` is the clock read of the call which wrote it. -/
structure Entry where
  reading : WeatherReading
  stamp : ℚ

/-- Where a call of `get_weather` stands. A call which has read the clock keeps
its grid key and the time it read. -/
inductive Call where
  | idle
  | entered (key : GridKey)
  | timed (key : GridKey) (now : ℚ)
  | missed (key : GridKey) (now : ℚ)
  | fetching (key : GridKey) (now : ℚ)
  | fetched (key : GridKey) (now : ℚ) (reading : WeatherReading)
  | returned (own : Option (GridKey × ℚ)) (reading : Option WeatherReading)
  | raised (exception : Exception)
deriving DecidableEq

/-- A fetch, of a call which read the clock at `now`; it has no outcome until it ends. -/
structure Fetch where
  request : Request
  now : ℚ
  begun : ℚ
  outcome : Option (Except Exception (Option WeatherReading))

def Fetch.key (fetch : Fetch) : GridKey := (fetch.request.latitude, fetch.request.longitude)

/-- A call fetches once at most, so a fetch is named by its call. -/
structure State where
  cache : GridKey → Option Entry
  clock : ℚ
  calls : CallId → Call
  fetches : CallId → Option Fetch

def initial (clock : ℚ) : State := ⟨fun _ => none, clock, fun _ => .idle, fun _ => none⟩

inductive Label where
  | tick (clock : ℚ)
  | call (id : CallId) (lat lon : Option ℚ)
  | readClock (id : CallId)
  | readCache (id : CallId)
  | startFetch (id : CallId)
  | endFetch (id : CallId) (exchange : Nat → Http.Outcome)
  | writeCache (id : CallId)

def State.set (s : State) (id : CallId) (call : Call) : State :=
  { s with calls := Function.update s.calls id call }

def State.log (s : State) (id : CallId) (fetch : Fetch) : State :=
  { s with fetches := Function.update s.fetches id (some fetch) }

section Steps
variable (client : WeatherClient) (pydantic : Pydantic)

def enter (lat lon : Option ℚ) : Call :=
  match lat, lon with
  | some lat, some lon =>
    match client.findGridKey lat lon with
    | .ok key => .entered key
    | .error exception => .raised exception
  | _, _ => .returned none none

def usable (now : ℚ) (cached : Option Entry) : Bool :=
  cached.any fun entry => now - entry.stamp < client.cacheTtlSeconds

def look (key : GridKey) (now : ℚ) (cached : Option Entry) : Call :=
  if client.usable now cached then .returned (some (key, now)) (cached.map Entry.reading)
  else .missed key now

def conclude (key : GridKey) (now : ℚ) : Except Exception (Option WeatherReading) → Call
  | .ok (some reading) => .fetched key now reading
  | .ok none => .returned (some (key, now)) none
  | .error exception => .raised exception

def next (s : State) : Label → Option State
  | .tick clock => if s.clock ≤ clock then some { s with clock } else none
  | .call id lat lon =>
    match s.calls id with
    | .idle => some (s.set id (client.enter lat lon))
    | _ => none
  | .readClock id =>
    match s.calls id with
    | .entered key => some (s.set id (.timed key s.clock))
    | _ => none
  | .readCache id =>
    match s.calls id with
    | .timed key now => some (s.set id (client.look key now (s.cache key)))
    | _ => none
  | .startFetch id =>
    match s.calls id with
    | .missed key now =>
      some ((s.set id (.fetching key now)).log id ⟨client.request key, now, s.clock, none⟩)
    | _ => none
  | .endFetch id exchange =>
    match s.calls id, s.fetches id with
    | .fetching key now, some begun =>
      let outcome := fetch pydantic exchange
      some ((s.set id (conclude key now outcome)).log id { begun with outcome := some outcome })
    | _, _ => none
  | .writeCache id =>
    match s.calls id with
    | .fetched key now reading =>
      some { s.set id (.returned (some (key, now)) (some reading)) with
        cache := Function.update s.cache key (some ⟨reading, now⟩) }
    | _ => none

end Steps

/-- The steps of the client, one constructor for each branch. -/
inductive Step (client : WeatherClient) (pydantic : Pydantic) (s : State) : Label → State → Prop where
  | tick {clock : ℚ} (later : s.clock ≤ clock) : Step client pydantic s (.tick clock) { s with clock }
  | call {id : CallId} {lat lon : Option ℚ} (idle : s.calls id = .idle) :
      Step client pydantic s (.call id lat lon) (s.set id (client.enter lat lon))
  | readClock {id : CallId} {key : GridKey} (entered : s.calls id = .entered key) :
      Step client pydantic s (.readClock id) (s.set id (.timed key s.clock))
  | hit {id : CallId} {key : GridKey} {now : ℚ} {entry : Entry} (timed : s.calls id = .timed key now)
      (cached : s.cache key = some entry) (fresh : now - entry.stamp < client.cacheTtlSeconds) :
      Step client pydantic s (.readCache id) (s.set id (.returned (some (key, now)) (some entry.reading)))
  | miss {id : CallId} {key : GridKey} {now : ℚ} (timed : s.calls id = .timed key now)
      (unusable : client.usable now (s.cache key) = false) :
      Step client pydantic s (.readCache id) (s.set id (.missed key now))
  | startFetch {id : CallId} {key : GridKey} {now : ℚ} (missed : s.calls id = .missed key now) :
      Step client pydantic s (.startFetch id)
        ((s.set id (.fetching key now)).log id ⟨client.request key, now, s.clock, none⟩)
  | endFetch {id : CallId} {exchange : Nat → Http.Outcome} {key : GridKey} {now : ℚ} {begun : Fetch}
      (fetching : s.calls id = .fetching key now) (logged : s.fetches id = some begun) :
      Step client pydantic s (.endFetch id exchange)
        ((s.set id (conclude key now (fetch pydantic exchange))).log id
          { begun with outcome := some (fetch pydantic exchange) })
  | writeCache {id : CallId} {key : GridKey} {now : ℚ} {reading : WeatherReading}
      (fetched : s.calls id = .fetched key now reading) :
      Step client pydantic s (.writeCache id)
        { s.set id (.returned (some (key, now)) (some reading)) with
          cache := Function.update s.cache key (some ⟨reading, now⟩) }

variable {client : WeatherClient} {pydantic : Pydantic} {s t : State} {label : Label}

theorem usable_iff {now : ℚ} {cached : Option Entry} :
    client.usable now cached = true ↔
      ∃ entry, cached = some entry ∧ now - entry.stamp < client.cacheTtlSeconds := by
  cases cached <;> simp [usable]

theorem enter_cases (lat lon : Option ℚ) :
    (∃ key, client.enter lat lon = .entered key) ∨
      (∃ exception, client.enter lat lon = .raised exception) ∨
        client.enter lat lon = .returned none none := by
  unfold enter
  split
  · split
    · exact .inl ⟨_, rfl⟩
    · exact .inr (.inl ⟨_, rfl⟩)
  · exact .inr (.inr rfl)

theorem next_step (moved : next client pydantic s label = some t) : Step client pydantic s label t := by
  cases label with
  | tick clock =>
    simp only [next, Option.ite_none_right_eq_some] at moved
    obtain ⟨later, moved⟩ := moved
    cases moved
    exact .tick later
  | call id lat lon =>
    simp only [next] at moved
    split at moved <;> cases moved
    next idle => exact .call idle
  | readClock id =>
    simp only [next] at moved
    split at moved <;> cases moved
    next entered => exact .readClock entered
  | readCache id =>
    simp only [next] at moved
    split at moved <;> cases moved
    next key now timed =>
      cases usable : client.usable now (s.cache key) with
      | false =>
        rw [look, if_neg (Bool.eq_false_iff.mp usable)]
        exact .miss timed usable
      | true =>
        obtain ⟨entry, cached, fresh⟩ := usable_iff.mp usable
        rw [look, if_pos usable, cached]
        exact .hit timed cached fresh
  | startFetch id =>
    simp only [next] at moved
    split at moved <;> cases moved
    next missed => exact .startFetch missed
  | endFetch id exchange =>
    simp only [next] at moved
    split at moved <;> cases moved
    next fetching logged => exact .endFetch fetching logged
  | writeCache id =>
    simp only [next] at moved
    split at moved <;> cases moved
    next fetched => exact .writeCache fetched

end WeatherClient
end FlightHub
