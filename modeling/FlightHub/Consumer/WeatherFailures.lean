import FlightHub.Consumer.Domain
import FlightHub.Consumer.Settlement
import FlightHub.Consumer.WeatherCache

/-! What an exchange with Open-Meteo can do to a flight. `_fetch` turns
`httpx.HTTPError` into a missing reading and lets every other exception through,
and a body can raise those of four other classes. -/
namespace FlightHub.WeatherClient
open Python Transition
variable {client : WeatherClient} {pydantic : Pydantic}

/-! ### The outcome of a fetch -/

/-- Each field of `current` is absent, `null` or a value which pydantic reads,
and the weather code fits the column. -/
structure Readable (pydantic : Pydantic) (current : List (String × Json)) : Prop where
  temperature : ∃ value, optional pydantic.float ((current.lookup "temperature_2m").getD .null) = some value
  windSpeed : ∃ value, optional pydantic.float ((current.lookup "wind_speed_10m").getD .null) = some value
  windDirection :
    ∃ value, optional pydantic.float ((current.lookup "wind_direction_10m").getD .null) = some value
  weatherCode : ∃ value, optional pydantic.int ((current.lookup "weather_code").getD .null) = some value ∧
    ∀ code, value = some code → Int32 code
  time : ∃ value, optional pydantic.str ((current.lookup "time").getD .null) = some value

/-- The body is an object with a readable object under `"current"`. -/
def Harmless (pydantic : Pydantic) (outcome : Http.Outcome) : Prop :=
  outcome.failed = false ∧ ∃ statusCode fields current,
    outcome = .response statusCode (some (.obj fields)) ∧
      fields.lookup "current" = some (.obj current) ∧ Readable pydantic current

/-- All three attempts fail, or the first which does not is harmless. -/
def HarmlessExchange (pydantic : Pydantic) (exchange : Nat → Http.Outcome) : Prop :=
  (∀ k < 3, (exchange k).failed = true) ∨
    ∃ k < 3, (∀ j < k, (exchange j).failed = true) ∧ Harmless pydantic (exchange k)

def currentArguments (current : List (String × Json)) : WeatherReading.Arguments where
  temperatureC := (current.lookup "temperature_2m").getD .null
  windSpeedKmh := (current.lookup "wind_speed_10m").getD .null
  windDirectionDeg := (current.lookup "wind_direction_10m").getD .null
  weatherCode := (current.lookup "weather_code").getD .null
  observedAt := (current.lookup "time").getD .null

theorem readCurrent_obj (current : List (String × Json)) :
    readCurrent pydantic (.obj current) = WeatherReading.validate pydantic (currentArguments current) :=
  rfl

theorem readCurrent_other {current : Json} (other : ∀ fields, current ≠ .obj fields) :
    readCurrent pydantic current = .error .attributeError := by
  cases current with
  | obj fields => exact absurd rfl (other fields)
  | _ => rfl

theorem validate_ok_iff {arguments : WeatherReading.Arguments} {reading : WeatherReading} :
    WeatherReading.validate pydantic arguments = .ok reading ↔ arguments.read pydantic = some reading := by
  unfold WeatherReading.validate
  cases arguments.read pydantic <;> simp

/-- The current weather is read, with a code which fits the column. -/
theorem readable_iff {current : List (String × Json)} :
    (∃ reading, readCurrent pydantic (.obj current) = .ok reading ∧
      ∀ code, reading.weatherCode = some code → Int32 code) ↔ Readable pydantic current := by
  simp only [readCurrent_obj, validate_ok_iff]
  constructor
  · rintro ⟨reading, read, fits⟩
    obtain ⟨temperature, known_temperature, read⟩ := Option.bind_eq_some_iff.mp read
    obtain ⟨windSpeed, known_speed, read⟩ := Option.bind_eq_some_iff.mp read
    obtain ⟨windDirection, known_direction, read⟩ := Option.bind_eq_some_iff.mp read
    obtain ⟨weatherCode, known_code, read⟩ := Option.bind_eq_some_iff.mp read
    obtain ⟨time, known_time, read⟩ := Option.bind_eq_some_iff.mp read
    cases read
    exact ⟨⟨_, known_temperature⟩, ⟨_, known_speed⟩, ⟨_, known_direction⟩, ⟨_, known_code, fits⟩,
      ⟨_, known_time⟩⟩
  · rintro ⟨⟨temperature, known_temperature⟩, ⟨windSpeed, known_speed⟩,
      ⟨windDirection, known_direction⟩, ⟨weatherCode, known_code, fits⟩, ⟨time, known_time⟩⟩
    refine ⟨⟨temperature, windSpeed, windDirection, weatherCode, time⟩, ?_, fits⟩
    simp [WeatherReading.Arguments.read, currentArguments, known_temperature, known_speed,
      known_direction, known_code, known_time]

theorem attempt_failed {outcome : Http.Outcome} (failed : outcome.failed = true) :
    attempt pydantic outcome = .error .httpError := by
  rw [attempt, Http.Outcome.json_failed failed]
  rfl

theorem readCurrent_error {current : Json} :
    readCurrent pydantic current ≠ .error .httpError := by
  cases current with
  | obj fields =>
    rw [readCurrent_obj, WeatherReading.validate]
    split <;> simp
  | _ => simp [readCurrent_other]

theorem field_error (payload : Json) (key : String) : payload.field key ≠ .error .httpError := by
  cases payload with
  | obj fields =>
    rw [Json.field]
    cases fields.lookup key <;> simp
  | _ => simp [Json.field]

/-- An answer with a good status never counts as a failed exchange. -/
theorem attempt_answered {outcome : Http.Outcome} (answered : outcome.failed = false) :
    attempt pydantic outcome ≠ .error .httpError := by
  obtain ⟨statusCode, body, rfl, json⟩ := Http.Outcome.json_answered answered
  rw [attempt, json]
  cases body with
  | none => simp [bind, Except.bind]
  | some payload =>
    have unfailed := field_error payload "current"
    simp only [Option.elim_some, bind, Except.bind]
    cases found : payload.field "current" with
    | error exception =>
      rw [found] at unfailed
      simpa using unfailed
    | ok current => exact readCurrent_error

theorem retried_attempt (outcome : Http.Outcome) :
    Tenacity.retried isHttpError (attempt pydantic outcome) = outcome.failed := by
  cases failed : outcome.failed with
  | true =>
    rw [attempt_failed failed]
    rfl
  | false =>
    have unfailed := @attempt_answered pydantic outcome failed
    cases result : attempt pydantic outcome with
    | ok reading => rfl
    | error exception =>
      rw [result] at unfailed
      simpa [Tenacity.retried, isHttpError] using unfailed

/-- The fetch ends with the first attempt which does not fail, or with the third. -/
theorem fetchWithRetry_eq {exchange : Nat → Http.Outcome} {last : Nat} (bound : last < 3)
    (before : ∀ k < last, (exchange k).failed = true)
    (ends : last + 1 = 3 ∨ (exchange last).failed = false) :
    fetchWithRetry pydantic exchange = attempt pydantic (exchange last) := by
  refine Tenacity.retry_eq bound (fun k small => ?_) (ends.imp_right fun answered => ?_)
  · rw [retried_attempt, before k small]
  · rw [retried_attempt, answered]

theorem fetch_failed {exchange : Nat → Http.Outcome} (failed : ∀ k < 3, (exchange k).failed = true) :
    fetch pydantic exchange = .ok none := by
  have ended : fetchWithRetry pydantic exchange = .error .httpError := by
    rw [fetchWithRetry_eq (by decide : 2 < 3) (fun k small => failed k (by omega)) (.inl rfl)]
    exact attempt_failed (failed 2 (by decide))
  simp [fetch, ended, isHttpError]

theorem fetch_answered {exchange : Nat → Http.Outcome} {last : Nat} (bound : last < 3)
    (before : ∀ k < last, (exchange k).failed = true) (answered : (exchange last).failed = false) :
    fetch pydantic exchange = (attempt pydantic (exchange last)).map some := by
  have unfailed := @attempt_answered pydantic _ answered
  rw [fetch, fetchWithRetry_eq bound before (.inr answered)]
  cases result : attempt pydantic (exchange last) with
  | ok reading => rfl
  | error exception =>
    rw [result] at unfailed
    have other : isHttpError exception = false := by simpa [isHttpError] using unfailed
    simp [other, Except.map]

/-- An attempt which is answered gives a reading for the columns exactly when it is harmless. -/
theorem attempt_ok_iff {outcome : Http.Outcome} (answered : outcome.failed = false) :
    (∃ reading, attempt pydantic outcome = .ok reading ∧
      ∀ code, reading.weatherCode = some code → Int32 code) ↔ Harmless pydantic outcome := by
  obtain ⟨statusCode, body, rfl, json⟩ := Http.Outcome.json_answered answered
  rw [attempt, json]
  constructor
  · rintro ⟨reading, read, fits⟩
    refine ⟨answered, ?_⟩
    cases body with
    | none => cases read
    | some payload =>
      cases payload with
      | obj fields =>
        cases found : fields.lookup "current" with
        | none => simp [bind, Except.bind, Json.field, found] at read
        | some current =>
          simp only [Option.elim_some, bind, Except.bind, Json.field, found] at read
          by_cases object : ∃ inner, current = .obj inner
          · obtain ⟨inner, rfl⟩ := object
            exact ⟨statusCode, fields, inner, rfl, found, readable_iff.mp ⟨reading, read, fits⟩⟩
          · rw [readCurrent_other (by simpa using object)] at read
            cases read
      | _ => cases read
  · rintro ⟨-, _, fields, current, same, found, readable⟩
    obtain ⟨-, rfl⟩ := Http.Outcome.response.inj same
    obtain ⟨reading, read, fits⟩ := readable_iff.mpr readable
    refine ⟨reading, ?_, fits⟩
    simp only [Option.elim_some, bind, Except.bind, Json.field, found]
    exact read

theorem fetch_ok_iff {exchange : Nat → Http.Outcome} :
    (∃ weather, fetch pydantic exchange = .ok weather ∧
      ∀ code, weather.bind WeatherReading.weatherCode = some code → Int32 code) ↔
        HarmlessExchange pydantic exchange := by
  obtain ⟨last, bound, before, ended⟩ :=
    Tenacity.exists_last (fun k => (exchange k).failed) (by decide : 0 < 3)
  constructor
  · rintro ⟨weather, fetched, fits⟩
    cases answered : (exchange last).failed with
    | true =>
      refine .inl fun k small => ?_
      obtain rfl : last = 2 := by
        rcases ended with third | settled
        · omega
        · exact absurd (answered.symm.trans settled) (by simp)
      rcases Nat.lt_succ_iff_lt_or_eq.mp small with earlier | rfl
      · exact before k earlier
      · exact answered
    | false =>
      refine .inr ⟨last, bound, before, (attempt_ok_iff answered).mp ?_⟩
      rw [fetch_answered bound before answered] at fetched
      cases result : attempt pydantic (exchange last) with
      | error exception =>
        rw [result] at fetched
        cases fetched
      | ok reading =>
        rw [result] at fetched
        cases fetched
        exact ⟨reading, rfl, fits⟩
  · rintro (failed | ⟨k, small, failed, harmless⟩)
    · exact ⟨none, fetch_failed failed, by simp⟩
    · obtain ⟨reading, read, fits⟩ := (attempt_ok_iff harmless.1).mpr harmless
      refine ⟨some reading, ?_, fits⟩
      rw [fetch_answered small failed harmless.1, read]
      rfl

/-! ### One call of `get_weather` -/

/-- A call which reads `cache` at `now`, and whose fetch, if it makes one, ends in `exchange`. -/
def getWeather (client : WeatherClient) (pydantic : Pydantic) (cache : GridKey → Option Entry) (now : ℚ)
    (exchange : Nat → Http.Outcome) (lat lon : Option ℚ) : Except Exception (Option WeatherReading) :=
  match client.enter lat lon with
  | .entered key =>
    if client.usable now (cache key) then .ok ((cache key).map Entry.reading) else fetch pydantic exchange
  | .raised exception => .error exception
  | _ => .ok none

variable {cache : GridKey → Option Entry} {now : ℚ} {exchange : Nat → Http.Outcome} {lat lon : Option ℚ}
  {key : GridKey} {s t : State} {label : Label}

theorem getWeather_hit (entered : client.enter lat lon = .entered key) {entry : Entry}
    (cached : cache key = some entry) (fresh : now - entry.stamp < client.cacheTtlSeconds) :
    getWeather client pydantic cache now exchange lat lon = .ok (some entry.reading) := by
  simp [getWeather, entered, usable, cached, fresh]

theorem getWeather_miss (entered : client.enter lat lon = .entered key)
    (unusable : client.usable now (cache key) = false) :
    getWeather client pydantic cache now exchange lat lon = fetch pydantic exchange := by
  simp [getWeather, entered, unusable]

section Calls
variable {clock : ℚ} {ls : List Label} {id : CallId} {reading : WeatherReading}
  {result : Except Exception (Option WeatherReading)}

/-- What a call of the run met: the position which it was made for, and where that has a
cell, the time and the cache which it read, and the exchange where no entry was usable. -/
structure Met (client : WeatherClient) (pydantic : Pydantic) (clock : ℚ) (ls : List Label) (id : CallId)
    (cache : GridKey → Option Entry) (now : ℚ) (exchange : Nat → Http.Outcome) (lat lon : Option ℚ) :
    Prop where
  asked : .call id lat lon ∈ ls
  timed : ∀ key, client.enter lat lon = .entered key →
    ∃ u, Taken (Steps (next client pydantic)) (initial clock) ls u (.readClock id) ∧ u.clock = now
  looked : ∀ key, client.enter lat lon = .entered key →
    ∃ u, Taken (Steps (next client pydantic)) (initial clock) ls u (.readCache id) ∧ u.cache = cache
  fetched : ∀ key, client.enter lat lon = .entered key → client.usable now (cache key) = false →
    .endFetch id exchange ∈ ls

/-- What a call has returned or raised. -/
def Call.finished : Call → Option (Except Exception (Option WeatherReading))
  | .returned _ reading => some (.ok reading)
  | .raised exception => some (.error exception)
  | _ => none

/-- A lookup comes under way where the call finds no usable entry. -/
theorem Step.underWay_new (step : Step client pydantic s label t)
    (other : (s.calls id).underWay ≠ some (key, now)) (underWay : (t.calls id).underWay = some (key, now)) :
    label = .readCache id ∧ client.usable now (s.cache key) = false := by
  by_cases caller : label.caller = some id
  · cases step with
    | tick _ => cases caller
    | @call _ lat lon idle =>
      cases caller
      simp only [State.set, Function.update_self] at underWay
      rcases client.enter_cases lat lon with ⟨key, entered⟩ | ⟨exception, entered⟩ | entered
      all_goals
        rw [entered] at underWay
        cases underWay
    | miss timed unusable =>
      cases caller
      simp only [State.set, Function.update_self] at underWay
      cases underWay
      exact ⟨rfl, unusable⟩
    | startFetch missed =>
      cases caller
      simp only [State.log, State.set, Function.update_self] at underWay
      rw [missed] at other
      exact absurd underWay other
    | @endFetch _ exchange own time begun fetching logged =>
      cases caller
      simp only [State.log, State.set, Function.update_self] at underWay
      rw [fetching] at other
      unfold conclude at underWay
      split at underWay
      · exact absurd underWay other
      · cases underWay
      · cases underWay
    | readClock _ | hit _ _ _ | writeCache _ =>
      cases caller
      simp only [State.set, Function.update_self] at underWay
      cases underWay
  · rw [(step.others caller).1] at underWay
    exact absurd underWay other

/-- A reading is fetched where an exchange ends with it. -/
theorem Step.fetched_new (step : Step client pydantic s label t)
    (other : s.calls id ≠ .fetched key now reading) (fetched : t.calls id = .fetched key now reading) :
    s.calls id = .fetching key now ∧
      ∃ exchange, label = .endFetch id exchange ∧ fetch pydantic exchange = .ok (some reading) := by
  by_cases caller : label.caller = some id
  · cases step with
    | tick _ => cases caller
    | @call _ lat lon idle =>
      cases caller
      simp only [State.set, Function.update_self] at fetched
      rcases client.enter_cases lat lon with ⟨key, entered⟩ | ⟨exception, entered⟩ | entered
      all_goals
        rw [entered] at fetched
        cases fetched
    | @endFetch _ exchange own time begun fetching logged =>
      cases caller
      simp only [State.log, State.set, Function.update_self, conclude] at fetched
      split at fetched
      · next found =>
        cases fetched
        exact ⟨fetching, exchange, rfl, found⟩
      · cases fetched
      · cases fetched
    | readClock _ | hit _ _ _ | miss _ _ | startFetch _ | writeCache _ =>
      cases caller
      simp only [State.log, State.set, Function.update_self, reduceCtorEq] at fetched
  · rw [(step.others caller).1] at fetched
    exact absurd fetched other

theorem run_missed (run : Run (Steps (next client pydantic)) (initial clock) ls s)
    (underWay : (s.calls id).underWay = some (key, now)) :
    ∃ u, Taken (Steps (next client pydantic)) (initial clock) ls u (.readCache id) ∧
      client.usable now (u.cache key) = false := by
  obtain ⟨before, rest, u, l, v, rfl, earlier, moved, other, begun⟩ :=
    run.crossing (P := fun s => (s.calls id).underWay = some (key, now)) nofun underWay
  obtain ⟨rfl, unusable⟩ := (next_step moved).underWay_new other begun
  exact ⟨u, ⟨before, rest, rfl, earlier⟩, unusable⟩

theorem run_fetched (run : Run (Steps (next client pydantic)) (initial clock) ls s)
    (fetched : s.calls id = .fetched key now reading) :
    ∃ exchange, .endFetch id exchange ∈ ls ∧ fetch pydantic exchange = .ok (some reading) := by
  obtain ⟨before, rest, u, l, v, rfl, earlier, moved, other, begun⟩ :=
    run.crossing (P := fun s => s.calls id = .fetched key now reading) nofun fetched
  obtain ⟨-, exchange, rfl, found⟩ := (next_step moved).fetched_new other begun
  exact ⟨exchange, by simp, found⟩

/-- A lookup which is under way ends as its exchange does. -/
theorem run_explained_missed (run : Run (Steps (next client pydantic)) (initial clock) ls s)
    (underWay : (s.calls id).underWay = some (key, now)) (known : (s.calls id).own = some (key, now))
    {more : List Label} (ended : .endFetch id exchange ∈ ls ++ more) :
    ∃ cache lat lon, Met client pydantic clock (ls ++ more) id cache now exchange lat lon ∧
      getWeather client pydantic cache now exchange lat lon = fetch pydantic exchange := by
  obtain ⟨lat, lon, u, called, entered, timed, time⟩ := run_timed run known
  obtain ⟨v, looked, unusable⟩ := run_missed run underWay
  refine ⟨v.cache, lat, lon, ?_, getWeather_miss entered unusable⟩
  exact ⟨List.mem_append_left _ called, fun _ _ => ⟨u, timed.append more, time⟩,
    fun _ _ => ⟨v, looked.append more, rfl⟩, fun _ _ _ => ended⟩

/-- A call which neither reads the clock nor the cache. -/
theorem explained_at_once {lat lon : Option ℚ} (called : .call id lat lon ∈ ls)
    (ended : (client.enter lat lon).finished = some result) :
    Met client pydantic clock ls id (fun _ => none) 0 (fun _ => .transportError) lat lon ∧
      getWeather client pydantic (fun _ => none) 0 (fun _ => .transportError) lat lon = result := by
  have cellless (key : GridKey) : client.enter lat lon ≠ .entered key := by
    intro entered
    rw [entered] at ended
    cases ended
  refine ⟨⟨called, fun key entered => absurd entered (cellless key),
    fun key entered => absurd entered (cellless key),
    fun key entered => absurd entered (cellless key)⟩, ?_⟩
  rcases client.enter_cases lat lon with ⟨key, entered⟩ | ⟨exception, entered⟩ | entered
  · exact absurd entered (cellless key)
  · rw [entered] at ended
    rw [getWeather, entered]
    exact Option.some.inj ended
  · rw [entered] at ended
    rw [getWeather, entered]
    exact Option.some.inj ended

/-- However the calls interleave, each ends as `getWeather` does on the cache, the time and
the exchange which it met. -/
theorem calls_explained (run : Run (Steps (next client pydantic)) (initial clock) ls s)
    (ended : (s.calls id).finished = some result) : ∃ cache now exchange lat lon,
      Met client pydantic clock ls id cache now exchange lat lon ∧
        getWeather client pydantic cache now exchange lat lon = result := by
  obtain ⟨before, rest, u, l, v, rfl, earlier, moved, other, ends⟩ :=
    run.crossing (P := fun s => (s.calls id).finished = some result) nofun ended
  have step := next_step moved
  by_cases caller : l.caller = some id
  · cases step with
    | tick _ => cases caller
    | @call _ lat lon idle =>
      cases caller
      simp only [State.set, Function.update_self] at ends
      exact ⟨_, _, _, lat, lon, explained_at_once (by simp) ends⟩
    | @hit _ key now entry timed cached fresh =>
      cases caller
      simp only [State.set, Function.update_self] at ends
      obtain rfl : .ok (some entry.reading) = result := Option.some.inj ends
      have known : (u.calls id).own = some (key, now) := by rw [timed]; rfl
      obtain ⟨lat, lon, w, called, entered, taken, time⟩ := run_timed earlier known
      refine ⟨u.cache, now, fun _ => .transportError, lat, lon, ?_, getWeather_hit entered cached fresh⟩
      refine ⟨List.mem_append_left _ called, fun _ _ => ⟨w, taken.append _, time⟩,
        fun _ _ => ⟨u, ⟨before, rest, rfl, earlier⟩, rfl⟩, fun other found unusable => ?_⟩
      obtain rfl : key = other := Call.entered.inj (entered.symm.trans found)
      exact absurd (usable_iff.mpr ⟨entry, cached, fresh⟩) (Bool.eq_false_iff.mp unusable)
    | @endFetch _ exchange key now begun fetching logged =>
      cases caller
      simp only [State.log, State.set, Function.update_self] at ends
      have found : fetch pydantic exchange = result := by
        unfold conclude at ends
        split at ends
        · cases ends
        · next failed => exact failed.trans (Option.some.inj ends)
        · next raised => exact raised.trans (Option.some.inj ends)
      obtain ⟨cache, lat, lon, met, same⟩ := run_explained_missed earlier (by rw [fetching]; rfl)
        (by rw [fetching]; rfl) (by simp : .endFetch id exchange ∈ before ++ .endFetch id exchange :: rest)
      exact ⟨cache, now, exchange, lat, lon, met, same.trans found⟩
    | @writeCache _ key now reading fetched =>
      cases caller
      simp only [State.set, Function.update_self] at ends
      obtain rfl : .ok (some reading) = result := Option.some.inj ends
      obtain ⟨exchange, answered, found⟩ := run_fetched earlier fetched
      obtain ⟨cache, lat, lon, met, same⟩ := run_explained_missed earlier (by rw [fetched]; rfl)
        (by rw [fetched]; rfl) (List.mem_append_left (.writeCache id :: rest) answered)
      exact ⟨cache, now, exchange, lat, lon, met, same.trans found⟩
    | readClock _ | miss _ _ | startFetch _ =>
      cases caller
      simp only [State.log, State.set, Function.update_self] at ends
      cases ends
  · rw [(step.others caller).1] at ends
    exact absurd ends other

end Calls

/-- With both coordinates, the quotients are finite, and the reading which the
cache holds, or else the exchange, does no harm. -/
def HarmlessLookup (client : WeatherClient) (pydantic : Pydantic) (cache : GridKey → Option Entry)
    (now : ℚ) (exchange : Nat → Http.Outcome) (lat lon : Option ℚ) : Prop :=
  match lat, lon with
  | some lat, some lon =>
    client.overflows lat = false ∧ client.overflows lon = false ∧
      if client.usable now (cache (client.gridKey lat lon)) then
        ∀ entry, cache (client.gridKey lat lon) = some entry →
          ∀ code, entry.reading.weatherCode = some code → Int32 code
      else HarmlessExchange pydantic exchange
  | _, _ => True

theorem getWeather_ok_iff (positive : 0 < client.gridSizeDeg) :
    (∃ weather, getWeather client pydantic cache now exchange lat lon = .ok weather ∧
      ∀ code, weather.bind WeatherReading.weatherCode = some code → Int32 code) ↔
        HarmlessLookup client pydantic cache now exchange lat lon := by
  cases lat with
  | none => simp [getWeather, enter, HarmlessLookup]
  | some latitude =>
    cases lon with
    | none => simp [getWeather, enter, HarmlessLookup]
    | some longitude =>
      simp only [HarmlessLookup, getWeather, enter, findGridKey, if_neg positive.ne']
      cases wide : client.overflows latitude || client.overflows longitude with
      | true =>
        simp only [if_true, reduceCtorEq, false_and, exists_false, false_iff]
        rintro ⟨narrow, short, -⟩
        simp [narrow, short] at wide
      | false =>
        obtain ⟨narrow, short⟩ := Bool.or_eq_false_iff.mp wide
        simp only [Bool.false_eq_true, if_false, narrow, short, true_and]
        cases usable : client.usable now (cache (client.gridKey latitude longitude)) with
        | false =>
          simp only [Bool.false_eq_true, if_false]
          exact fetch_ok_iff
        | true =>
          obtain ⟨entry, cached, _⟩ := usable_iff.mp usable
          simp [cached]

end FlightHub.WeatherClient

/-! ### The flight -/

namespace FlightHub.Repository
open Postgres Transition
variable {driver : Driver} {r : State} {flight : EnrichedFlight}

/-- The actions of a call which the database serves at `clock`. -/
def served (id : CallId) (clock : Instant) : List Action :=
  [.acquire id, .upsert id .accepted clock, .append id .accepted clock, .commit id .accepted]

theorem replay_served {id : CallId} (waiting : r.calls id = .waiting flight) (free : r.lock = none)
    (ready : r.session.status = .idle) (adapts : driver flight.modelDump = true) (clock : Instant) :
    ∃ after, replay (next driver) r (served id clock) = some after ∧ after.calls id = .returned ∧
      after.session.committed = r.session.committed.record flight.modelDump clock := by
  simp [served, replay, next, waiting, free, ready, adapts, Session.cursor, Session.execute,
    Session.send, Session.commit, State.set, State.leave, Database.record]

end FlightHub.Repository

namespace FlightHub.Consumer
open Postgres Transition
variable {settings : Settings} {driver : Driver} {s t : State} {tag : Tag} {message : FlightMessage}

/-- A worker has taken the delivery, nothing holds the repository, and callbacks run. -/
structure Ready (s : State) (tag : Tag) (message : FlightMessage) : Prop where
  received : s.running.lookup tag = some .received
  body : s.body tag = some (some message)
  uncalled : s.repository.calls tag = .idle
  free : s.repository.lock = none
  idle : s.repository.session.status = .idle
  looping : s.phase.inLoop = true

/-- The worker's steps on a delivery whose row the database accepts at `clock`,
and its settlement. -/
def processing (s : State) (tag : Tag) (lookup : Option (Option WeatherReading)) (clock : Instant) :
    List Label :=
  [.enrich tag lookup] ++ (Repository.served tag clock).map .store ++
    [.finish tag, .schedule tag, .settle s.callbacks.length]

theorem replay_store (alive : s.phase ≠ .closed) {actions : List Repository.Action}
    (own : ∀ action ∈ actions, ∀ tag flight, action ≠ .call tag flight) :
    replay (next settings driver) s (actions.map .store) =
      (replay (Repository.next driver) s.repository actions).map fun repository =>
        { s with repository } := by
  induction actions generalizing s with
  | nil => rfl
  | cons action rest ih =>
    obtain ⟨first, own⟩ := List.forall_mem_cons.mp own
    have moved : next settings driver s (.store action) =
        (Repository.next driver s.repository action).map fun repository => { s with repository } := by
      cases action with
      | call tag flight => exact absurd rfl (first tag flight)
      | _ => simp only [next, if_neg alive]
    rw [List.map_cons, replay, moved, replay]
    cases Repository.next driver s.repository action with
    | none => rfl
    | some repository => exact @ih { s with repository } alive own

theorem replay_processing (ready : Ready s tag message) {weather : Option WeatherReading}
    {flight : EnrichedFlight} (made : EnrichedFlight.fromFlightMessage message weather = .ok flight)
    (adapts : driver flight.modelDump = true) (clock : Instant) :
    ∃ t, replay (next settings driver) s (processing s tag (some weather) clock) = some t ∧
      (tag, true) ∈ t.settled ∧
        t.repository.session.committed = s.repository.session.committed.record flight.modelDump clock := by
  let storing := { s.work tag .storing with repository := s.repository.set tag (.waiting flight) }
  have enriched : replay (next settings driver) s [.enrich tag (some weather)] = some storing := by
    simp [replay, next, processMessage, ready.received, ready.body, made, Repository.next,
      ready.uncalled, storing]
  have alive : storing.phase ≠ .closed := by
    intro closed
    have looping : s.phase.inLoop = true := ready.looping
    rw [show s.phase = .closed from closed] at looping
    cases looping
  obtain ⟨after, served, returned, committed⟩ := @Repository.replay_served driver storing.repository
    flight tag (Function.update_self ..) ready.free ready.idle adapts clock
  let stored := { storing with repository := after }
  have own : ∀ action ∈ Repository.served tag clock, ∀ tag flight, action ≠ .call tag flight := by
    simp [Repository.served]
  have stores : replay (next settings driver) storing ((Repository.served tag clock).map .store) =
      some stored := by
    rw [replay_store alive own, served]
    rfl
  have connected : s.phase.connected = true := by
    have looping : s.phase.inLoop = true := ready.looping
    cases phase : s.phase <;> simp_all [Phase.inLoop, Phase.connected]
  rw [processing, replay_append (replay_append enriched ▸ stores)]
  simp [replay, next, stored, storing, State.work, returned, State.addCallback, connected,
    ready.looping, State.ackOrNack, committed, Repository.State.set]

def weatherColumns : List Column :=
  [.weatherTemperatureC, .weatherWindSpeedKmh, .weatherWindDirectionDeg, .weatherCode]

/-- The lookup gives a reading or none, the row with it fits the table, and the
worker's delivery is acked with the row committed. -/
def Survives (settings : Settings) (driver : Driver) (s : State) (tag : Tag) (message : FlightMessage)
    (lookup : Except Python.Exception (Option WeatherReading)) : Prop :=
  ∃ weather flight, lookup = .ok weather ∧
    EnrichedFlight.fromFlightMessage message weather = .ok flight ∧
    (∀ column : Column, column.Fits (flight.modelDump column)) ∧
    (weather = none → ∀ column ∈ weatherColumns, flight.modelDump column = .null) ∧
    ∀ clock, ∃ t, replay (next settings driver) s (processing s tag (some weather) clock) = some t ∧
      (tag, true) ∈ t.settled ∧
        t.repository.session.committed = s.repository.session.committed.record flight.modelDump clock

theorem storable_weather_iff (storable : Storable message none) {weather : Option WeatherReading} :
    Storable message weather ↔
      ∀ code, weather.bind WeatherReading.weatherCode = some code → Int32 code := by
  obtain ⟨_, made, fits⟩ := storable
  obtain ⟨timePosition, lastContact, position, contact, rfl⟩ :=
    EnrichedFlight.fromFlightMessage_eq_ok.mp made
  have range := (EnrichedFlight.fits_iff _).mp fits
  constructor
  · rintro ⟨_, made, fits⟩
    obtain ⟨_, _, _, _, rfl⟩ := EnrichedFlight.fromFlightMessage_eq_ok.mp made
    exact ((EnrichedFlight.fits_iff _).mp fits).weatherCode
  · intro code
    refine ⟨EnrichedFlight.assemble message weather timePosition lastContact, ?_, ?_⟩
    · exact EnrichedFlight.fromFlightMessage_eq_ok.mpr ⟨_, _, position, contact, rfl⟩
    · exact (EnrichedFlight.fits_iff _).mpr ⟨range.icao24, range.callsign, range.originCountry,
        range.squawk, range.positionSource, range.category, code⟩

theorem weatherless_null {flight : EnrichedFlight}
    (made : EnrichedFlight.fromFlightMessage message none = .ok flight) :
    ∀ column ∈ weatherColumns, flight.modelDump column = .null := by
  obtain ⟨_, _, _, _, rfl⟩ := EnrichedFlight.fromFlightMessage_eq_ok.mp made
  simp [weatherColumns, EnrichedFlight.modelDump, EnrichedFlight.assemble, nullable]

/-- A message whose own row the database accepts survives its weather lookup
exactly when the lookup is harmless. -/
theorem weather_costs_no_flight_iff {client : WeatherClient} {pydantic : Pydantic}
    {cache : GridKey → Option WeatherClient.Entry} {now : ℚ} {exchange : Nat → Http.Outcome}
    (positive : 0 < client.gridSizeDeg) (storable : Storable message none) (ready : Ready s tag message)
    (adapts : ∀ weather flight, EnrichedFlight.fromFlightMessage message weather = .ok flight →
      driver flight.modelDump = true) :
    Survives settings driver s tag message (WeatherClient.getWeather client pydantic cache now exchange
      message.state.latitude message.state.longitude) ↔
        WeatherClient.HarmlessLookup client pydantic cache now exchange message.state.latitude
          message.state.longitude := by
  rw [← WeatherClient.getWeather_ok_iff positive]
  constructor
  · rintro ⟨weather, flight, looked, made, fits, -⟩
    exact ⟨weather, looked, (storable_weather_iff storable).mp ⟨flight, made, fits⟩⟩
  · rintro ⟨weather, looked, code⟩
    obtain ⟨flight, made, fits⟩ := (storable_weather_iff storable).mpr code
    refine ⟨weather, flight, looked, made, fits, ?_, ?_⟩
    · rintro rfl
      exact weatherless_null made
    · exact replay_processing ready made (adapts weather flight made)

/-- A report with the position of the cache test. -/
def located : FlightMessage where
  state := { (report "738065" 0).state with latitude := some 32, longitude := some (174 / 5) }
  fetchedAt := (report "738065" 0).fetchedAt

theorem located_storable : Storable located none := by
  refine ⟨_, rfl, fun column => ?_⟩
  cases column <;> decide

private def taken (s : State) : Bool :=
  s.running.lookup 0 = some .received ∧ s.body 0 = some (some located) ∧
    s.repository.calls 0 = .idle ∧ s.repository.lock = none ∧ s.phase.inLoop = true ∧
      (match s.repository.session.status with
        | .idle => true
        | _ => false) = true

private theorem located_taken : ∃ s, Run (Steps (next {} fun _ => true)) (initial .empty)
    [.publish (some located), .deliver, .start] s ∧ Ready s 0 located := by
  have passed : (replay (next {} fun _ => true) (initial .empty)
      [.publish (some located), .deliver, .start]).any taken = true := by decide +kernel
  obtain ⟨s, run, checked⟩ := run_of_test passed
  obtain ⟨received, body, uncalled, free, looping, idle⟩ := of_decide_eq_true checked
  refine ⟨s, run, received, body, uncalled, free, ?_, looping⟩
  split at idle
  · next status => exact status
  · cases idle

theorem weather_costs_no_flight_sunny : ∃ s,
    Run (Steps (next {} fun _ => true)) (initial .empty) [.publish (some located), .deliver, .start] s ∧
      Survives {} (fun _ => true) s 0 located (WeatherClient.getWeather {} .strict (fun _ => none) 0
        WeatherClient.answered (some 32) (some (174 / 5))) := by
  obtain ⟨s, run, ready⟩ := located_taken
  refine ⟨s, run, ?_⟩
  have positive : (0 : ℚ) < ({} : WeatherClient).gridSizeDeg := by decide +kernel
  refine (weather_costs_no_flight_iff positive located_storable ready (fun _ _ _ => rfl)).mpr ?_
  refine ⟨by decide +kernel, by decide +kernel, .inr ⟨0, by decide, nofun, rfl, 200, _, _, rfl, rfl, ?_⟩⟩
  exact ⟨⟨_, rfl⟩, ⟨_, rfl⟩, ⟨_, rfl⟩, ⟨_, rfl, by decide⟩, ⟨_, rfl⟩⟩

/-- The service answers with a page which is not JSON. -/
def maintenance (_attempt : Nat) : Http.Outcome := .response 200 none

theorem maintenance_page_costs_flight :
    ¬ ∀ client pydantic cache now exchange settings driver tables ls s tag message,
      0 < client.gridSizeDeg → Run (Steps (next settings driver)) (initial tables) ls s →
        Ready s tag message → Storable message none →
          (∀ weather flight, EnrichedFlight.fromFlightMessage message weather = .ok flight →
            driver flight.modelDump = true) →
          Survives settings driver s tag message (WeatherClient.getWeather client pydantic cache now
            exchange message.state.latitude message.state.longitude) := by
  intro survives
  obtain ⟨s, run, ready⟩ := located_taken
  have positive : (0 : ℚ) < ({} : WeatherClient).gridSizeDeg := by decide +kernel
  obtain ⟨weather, _, looked, _⟩ := survives {} .strict (fun _ => none) 0 maintenance _ _ _ _ s 0 located
    positive run ready located_storable (fun _ _ _ => rfl)
  have raises : WeatherClient.getWeather {} .strict (fun _ => none) 0 maintenance (some 32)
      (some (174 / 5)) = .error .jsonDecodeError := by decide +kernel
  exact absurd (raises.symm.trans looked) (by simp)

end FlightHub.Consumer
