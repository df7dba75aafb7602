import FlightHub.Consumer.Weather

/-! What the shared cache guarantees under any interleaving. A stamp is never
later than the fetch behind it begins, so a reading is younger than its stamp
says. The check of the cache and its filling are two critical sections, so two
calls can miss the same cell at once. -/
namespace FlightHub.WeatherClient
open Python Transition
variable {client : WeatherClient} {pydantic : Pydantic} {s t : State} {label : Label}

/-- The fetch of `id` for this cell, by a call which read the clock at `now`. -/
def State.Own (client : WeatherClient) (s : State) (id : CallId) (key : GridKey) (now : ℚ)
    (outcome : Option (Except Exception (Option WeatherReading))) : Prop :=
  ∃ fetch, s.fetches id = some fetch ∧ fetch.request = client.request key ∧ fetch.now = now ∧
    fetch.outcome = outcome ∧ now ≤ fetch.begun

/-- A successful fetch for this cell which began at `after` or later. -/
def State.Produced (client : WeatherClient) (s : State) (key : GridKey) (reading : WeatherReading)
    (after : ℚ) : Prop :=
  ∃ source fetch, s.fetches source = some fetch ∧ fetch.request = client.request key ∧
    fetch.outcome = some (.ok (some reading)) ∧ after ≤ fetch.begun

/-- A successful fetch for this cell which began within the TTL before `now`, or later. -/
def State.Fresh (client : WeatherClient) (s : State) (key : GridKey) (reading : WeatherReading)
    (now : ℚ) : Prop :=
  ∃ source fetch, s.fetches source = some fetch ∧ fetch.request = client.request key ∧
    fetch.outcome = some (.ok (some reading)) ∧ now - client.cacheTtlSeconds < fetch.begun

def Call.Backed (client : WeatherClient) (s : State) (id : CallId) : Call → Prop
  | .idle | .entered _ => s.fetches id = none
  | .timed _ now | .missed _ now => now ≤ s.clock ∧ s.fetches id = none
  | .fetching key now => s.Own client id key now none
  | .fetched key now reading => s.Own client id key now (some (.ok (some reading)))
  | .returned (some (key, now)) (some reading) => s.Fresh client key reading now
  | .returned _ _ | .raised _ => True

/-- Every entry of the cache and every call which has read the clock is backed by a fetch. -/
structure Inv (client : WeatherClient) (s : State) : Prop where
  calls : ∀ id, (s.calls id).Backed client s id
  entries : ∀ key entry, s.cache key = some entry → s.Produced client key entry.reading entry.stamp

theorem initial_inv (client : WeatherClient) (clock : ℚ) : Inv client (initial clock) where
  calls _ := rfl
  entries _ _ cached := by cases cached

/-! ### What a step leaves as it is -/

def Label.caller : Label → Option CallId
  | .tick _ => none
  | .call id _ _ | .readClock id | .readCache id | .startFetch id | .endFetch id _ | .writeCache id =>
    some id

theorem Step.clock (step : Step client pydantic s label t) : s.clock ≤ t.clock := by
  cases step with
  | tick later => exact later
  | _ => exact le_refl _

theorem Step.others (step : Step client pydantic s label t) {id : CallId}
    (other : label.caller ≠ some id) : t.calls id = s.calls id ∧ t.fetches id = s.fetches id := by
  cases step with
  | tick _ => exact ⟨rfl, rfl⟩
  | startFetch _ | endFetch _ _ =>
    have differs : id ≠ _ := fun same => other (congrArg some same.symm)
    exact ⟨Function.update_of_ne differs _ _, Function.update_of_ne differs _ _⟩
  | _ =>
    have differs : id ≠ _ := fun same => other (congrArg some same.symm)
    exact ⟨Function.update_of_ne differs _ _, rfl⟩

/-- A fetch which has ended stays in the log as it is. -/
theorem Inv.ended_kept (inv : Inv client s) (step : Step client pydantic s label t)
    {source : CallId} {fetch : Fetch} (logged : s.fetches source = some fetch)
    (ended : fetch.outcome ≠ none) : t.fetches source = some fetch := by
  by_cases own : label.caller = some source
  · have backed := inv.calls source
    cases step with
    | tick _ => exact logged
    | startFetch missed =>
      cases own
      rw [missed] at backed
      exact absurd (backed.2.symm.trans logged) nofun
    | endFetch fetching begun =>
      cases own
      rw [fetching] at backed
      obtain ⟨_, pending, _, _, unended, _⟩ := backed
      obtain rfl := Option.some.inj (pending.symm.trans logged)
      exact absurd unended ended
    | _ => exact logged
  · exact (step.others own).2.trans logged

theorem Inv.produced_kept (inv : Inv client s) (step : Step client pydantic s label t)
    {key : GridKey} {reading : WeatherReading} {after : ℚ}
    (produced : s.Produced client key reading after) : t.Produced client key reading after := by
  obtain ⟨source, fetch, logged, request, outcome, begun⟩ := produced
  exact ⟨source, fetch, inv.ended_kept step logged (by simp [outcome]), request, outcome, begun⟩

theorem Inv.fresh_kept (inv : Inv client s) (step : Step client pydantic s label t)
    {key : GridKey} {reading : WeatherReading} {now : ℚ}
    (fresh : s.Fresh client key reading now) : t.Fresh client key reading now := by
  obtain ⟨source, fetch, logged, request, outcome, begun⟩ := fresh
  exact ⟨source, fetch, inv.ended_kept step logged (by simp [outcome]), request, outcome, begun⟩

theorem Inv.backed_kept (inv : Inv client s) (step : Step client pydantic s label t) {id : CallId}
    (other : label.caller ≠ some id) : (t.calls id).Backed client t id := by
  have backed := inv.calls id
  obtain ⟨calls, fetches⟩ := step.others other
  rw [calls]
  cases at_call : s.calls id with
  | idle | entered key =>
    rw [at_call] at backed
    exact fetches.trans backed
  | timed key now | missed key now =>
    rw [at_call] at backed
    exact ⟨backed.1.trans step.clock, fetches.trans backed.2⟩
  | fetching key now | fetched key now reading =>
    rw [at_call] at backed
    simpa only [Call.Backed, State.Own, fetches] using backed
  | returned own reading =>
    rw [at_call] at backed
    cases own with
    | none => trivial
    | some own =>
      cases reading with
      | none => trivial
      | some reading => exact inv.fresh_kept step backed
  | raised exception => trivial

/-! ### Freshness -/

theorem State.Produced.fresh {key : GridKey} {reading : WeatherReading} {stamp now : ℚ}
    (produced : s.Produced client key reading stamp) (young : now - stamp < client.cacheTtlSeconds) :
    s.Fresh client key reading now := by
  obtain ⟨source, fetch, logged, request, outcome, begun⟩ := produced
  exact ⟨source, fetch, logged, request, outcome, by linarith⟩

theorem State.Own.produced {id : CallId} {key : GridKey} {now : ℚ} {reading : WeatherReading}
    (own : s.Own client id key now (some (.ok (some reading)))) : s.Produced client key reading now := by
  obtain ⟨fetch, logged, request, -, outcome, begun⟩ := own
  exact ⟨id, fetch, logged, request, outcome, begun⟩

theorem enter_backed {id : CallId} (unfetched : t.fetches id = none) (lat lon : Option ℚ) :
    (client.enter lat lon).Backed client t id := by
  rcases client.enter_cases lat lon with ⟨key, entered⟩ | ⟨exception, entered⟩ | entered
  · rw [entered]
    exact unfetched
  · rw [entered]
    trivial
  · rw [entered]
    trivial

theorem Inv.caller_backed (positive : 0 < client.cacheTtlSeconds) (inv : Inv client s)
    (step : Step client pydantic s label t) {id : CallId} (own : label.caller = some id) :
    (t.calls id).Backed client t id := by
  have backed := inv.calls id
  cases step with
  | tick _ => cases own
  | call idle =>
    cases own
    rw [idle] at backed
    simp only [State.set, Function.update_self]
    exact enter_backed backed _ _
  | readClock entered =>
    cases own
    rw [entered] at backed
    simp only [State.set, Function.update_self]
    exact ⟨le_refl s.clock, backed⟩
  | hit timed cached fresh =>
    cases own
    simp only [State.set, Function.update_self]
    exact (inv.entries _ _ cached).fresh fresh
  | miss timed _ =>
    cases own
    rw [timed] at backed
    simp only [State.set, Function.update_self]
    exact backed
  | @startFetch _ key now missed =>
    cases own
    rw [missed] at backed
    simp only [State.log, State.set, Function.update_self]
    exact ⟨_, Function.update_self .., rfl, rfl, rfl, backed.1⟩
  | @endFetch _ exchange key now begun fetching logged =>
    cases own
    rw [fetching] at backed
    obtain ⟨_, pending, request, time, _, started⟩ := backed
    obtain rfl := Option.some.inj (pending.symm.trans logged)
    simp only [State.log, State.set, Function.update_self]
    cases outcome : fetch pydantic exchange with
    | error exception => trivial
    | ok reading =>
      cases reading with
      | none => trivial
      | some reading => exact ⟨_, Function.update_self .., request, time, rfl, started⟩
  | @writeCache _ key now reading fetched =>
    cases own
    rw [fetched] at backed
    simp only [State.set, Function.update_self]
    exact State.Produced.fresh backed.produced (by linarith)

theorem Inv.step (positive : 0 < client.cacheTtlSeconds) (inv : Inv client s)
    (step : Step client pydantic s label t) : Inv client t where
  calls id := by
    by_cases own : label.caller = some id
    · exact inv.caller_backed positive step own
    · exact inv.backed_kept step own
  entries key entry cached := by
    refine inv.produced_kept step ?_
    cases step with
    | @writeCache id own now reading fetched =>
      have backed := inv.calls id
      rw [fetched] at backed
      have written : Function.update s.cache own (some ⟨reading, now⟩) key = some entry := cached
      by_cases same : key = own
      · subst same
        rw [Function.update_self] at written
        obtain rfl := Option.some.inj written
        exact backed.produced
      · rw [Function.update_of_ne same] at written
        exact inv.entries key entry written
    | _ => exact inv.entries key entry cached

variable {clock : ℚ} {ls : List Label}

theorem run_inv (positive : 0 < client.cacheTtlSeconds)
    (run : Run (Steps (next client pydantic)) (initial clock) ls s) : Inv client s :=
  run.invariant (fun inv moved => inv.step positive (next_step moved)) (initial_inv client clock)

/-! ### The position and the clock of a call -/

section Asked
variable {id : CallId} {key : GridKey} {timing : GridKey × ℚ}

/-- The cell of a call and the time which it read from the clock. -/
def Call.own : Call → Option (GridKey × ℚ)
  | .timed key now | .missed key now | .fetching key now | .fetched key now _ => some (key, now)
  | .returned own _ => own
  | .idle | .entered _ | .raised _ => none

theorem enter_own (lat lon : Option ℚ) : (client.enter lat lon).own = none := by
  rcases client.enter_cases lat lon with ⟨key, entered⟩ | ⟨exception, entered⟩ | entered
  · rw [entered]
    rfl
  · rw [entered]
    rfl
  · rw [entered]
    rfl

theorem conclude_own {now : ℚ} {outcome : Except Exception (Option WeatherReading)}
    (known : (conclude key now outcome).own = some timing) : timing = (key, now) := by
  unfold conclude at known
  split at known
  · exact (Option.some.inj known).symm
  · exact (Option.some.inj known).symm
  · cases known

/-- A call is given its time where it reads the clock. -/
theorem Step.own_new (step : Step client pydantic s label t) (other : (s.calls id).own ≠ some timing)
    (known : (t.calls id).own = some timing) :
    ∃ key, s.calls id = .entered key ∧ label = .readClock id ∧ timing = (key, s.clock) := by
  by_cases caller : label.caller = some id
  · cases step with
    | tick _ => cases caller
    | call idle =>
      cases caller
      simp only [State.set, Function.update_self, enter_own, reduceCtorEq] at known
    | readClock entered =>
      cases caller
      simp only [State.set, Function.update_self] at known
      exact ⟨_, entered, rfl, (Option.some.inj known).symm⟩
    | endFetch fetching _ =>
      cases caller
      simp only [State.log, State.set, Function.update_self] at known
      rw [conclude_own known, fetching] at other
      exact absurd rfl other
    | hit at_call _ _ | miss at_call _ | startFetch at_call | writeCache at_call =>
      cases caller
      simp only [State.log, State.set, Function.update_self] at known
      rw [at_call] at other
      exact absurd known other
  · rw [(step.others caller).1] at known
    exact absurd known other

/-- A call is given its cell where it is made. -/
theorem Step.entered_new (step : Step client pydantic s label t) (other : s.calls id ≠ .entered key)
    (entered : t.calls id = .entered key) :
    ∃ lat lon, label = .call id lat lon ∧ client.enter lat lon = .entered key := by
  by_cases caller : label.caller = some id
  · cases step with
    | tick _ => cases caller
    | @call _ lat lon idle =>
      cases caller
      simp only [State.set, Function.update_self] at entered
      exact ⟨lat, lon, rfl, entered⟩
    | @endFetch _ exchange own now begun fetching logged =>
      cases caller
      simp only [State.log, State.set, Function.update_self, conclude] at entered
      split at entered <;> cases entered
    | readClock at_call | hit at_call _ _ | miss at_call _ | startFetch at_call | writeCache at_call =>
      cases caller
      simp only [State.log, State.set, Function.update_self, reduceCtorEq] at entered
  · rw [(step.others caller).1] at entered
    exact absurd entered other

theorem enter_eq_entered {lat lon : Option ℚ} (entered : client.enter lat lon = .entered key) :
    ∃ latitude longitude, lat = some latitude ∧ lon = some longitude ∧
      key = client.gridKey latitude longitude := by
  unfold enter at entered
  split at entered
  · next latitude longitude =>
    refine ⟨latitude, longitude, rfl, rfl, ?_⟩
    split at entered
    · next found =>
      cases entered
      unfold findGridKey at found
      split at found
      · cases found
      · split at found
        · cases found
        · exact (Except.ok.inj found).symm
    · cases entered
  · cases entered

/-- The call was made for a position in this cell, and read this time from the clock. -/
def Asked (client : WeatherClient) (pydantic : Pydantic) (clock : ℚ) (ls : List Label) (id : CallId)
    (key : GridKey) (now : ℚ) : Prop :=
  ∃ lat lon u, .call id (some lat) (some lon) ∈ ls ∧ key = client.gridKey lat lon ∧
    Taken (Steps (next client pydantic)) (initial clock) ls u (.readClock id) ∧ u.clock = now

theorem run_entered (run : Run (Steps (next client pydantic)) (initial clock) ls s)
    (entered : s.calls id = .entered key) :
    ∃ lat lon, .call id lat lon ∈ ls ∧ client.enter lat lon = .entered key := by
  obtain ⟨before, rest, u, l, v, rfl, -, moved, other, begun⟩ :=
    run.crossing (P := fun s => s.calls id = .entered key) nofun entered
  obtain ⟨lat, lon, rfl, entered⟩ := (next_step moved).entered_new other begun
  exact ⟨lat, lon, by simp, entered⟩

theorem run_timed {now : ℚ} (run : Run (Steps (next client pydantic)) (initial clock) ls s)
    (known : (s.calls id).own = some (key, now)) : ∃ lat lon u, .call id lat lon ∈ ls ∧
      client.enter lat lon = .entered key ∧
        Taken (Steps (next client pydantic)) (initial clock) ls u (.readClock id) ∧ u.clock = now := by
  obtain ⟨before, rest, u, l, v, rfl, earlier, moved, other, begun⟩ :=
    run.crossing (P := fun s => (s.calls id).own = some (key, now)) nofun known
  obtain ⟨own, entered, rfl, same⟩ := (next_step moved).own_new other begun
  obtain ⟨rfl, rfl⟩ := Prod.mk.inj same
  obtain ⟨lat, lon, called, entered⟩ := run_entered earlier entered
  exact ⟨lat, lon, u, List.mem_append_left _ called, entered, ⟨before, rest, rfl, earlier⟩, rfl⟩

theorem run_asked {now : ℚ} (run : Run (Steps (next client pydantic)) (initial clock) ls s)
    (known : (s.calls id).own = some (key, now)) : Asked client pydantic clock ls id key now := by
  obtain ⟨lat, lon, u, called, entered, taken, time⟩ := run_timed run known
  obtain ⟨latitude, longitude, rfl, rfl, cell⟩ := enter_eq_entered entered
  exact ⟨latitude, longitude, u, called, cell, taken, time⟩

end Asked

/-- A reading which is returned stems from a successful fetch for the cell of the
position which the call was made for, begun within the TTL before the call read
the clock or later; and only a call whose own fetch succeeded changes an entry,
that of its cell. -/
theorem weather_fresh (positive : 0 < client.cacheTtlSeconds)
    (run : Run (Steps (next client pydantic)) (initial clock) ls s) :
    (∀ id key now reading, s.calls id = .returned (some (key, now)) (some reading) →
      Asked client pydantic clock ls id key now ∧ s.Fresh client key reading now) ∧
    ∀ label t, next client pydantic s label = some t → t.cache ≠ s.cache →
      ∃ id key now reading, label = .writeCache id ∧
        s.Own client id key now (some (.ok (some reading))) ∧
          t.cache = Function.update s.cache key (some ⟨reading, now⟩) := by
  have inv := run_inv positive run
  refine ⟨fun id key now reading returned => ⟨run_asked run ?_, ?_⟩, fun label t moved changed => ?_⟩
  · rw [returned]
    rfl
  · have backed := inv.calls id
    rwa [returned] at backed
  · cases next_step moved with
    | @writeCache id key now reading fetched =>
      have backed := inv.calls id
      rw [fetched] at backed
      exact ⟨id, key, now, reading, rfl, backed, rfl⟩
    | _ => exact absurd rfl changed

/-- The test's `sample_current`. -/
def sampleCurrent : Json :=
  .obj [("time", .str "2026-08-28T12:00"), ("temperature_2m", .float (63 / 2)),
    ("wind_speed_10m", .float (41 / 5)), ("wind_direction_10m", .int 270), ("weather_code", .int 0)]

def answered (_attempt : Nat) : Http.Outcome := .response 200 (some (.obj [("current", sampleCurrent)]))

def sampleReading : WeatherReading where
  temperatureC := some (63 / 2)
  windSpeedKmh := some (41 / 5)
  windDirectionDeg := some 270
  weatherCode := some 0
  observedAt := some "2026-08-28T12:00"

def entering (id : CallId) : List Label :=
  [.call id (some 32) (some (174 / 5)), .readClock id, .readCache id]

/-- A call reads the clock before the entry is written and the cache after it. -/
def overlapSchedule : List Label :=
  entering 0 ++ [.startFetch 0, .tick 4, .call 1 (some (641 / 20)) (some (697 / 20)), .readClock 1,
    .endFetch 0 answered, .tick 5, .writeCache 0, .readCache 1]

theorem weather_fresh_overlap : ∃ s,
    Run (Steps (next {} .strict)) (initial 0) overlapSchedule s ∧
      s.calls 1 = .returned (some ((32, 139 / 4), 4)) (some sampleReading) ∧
      Asked {} .strict 0 overlapSchedule 1 (32, 139 / 4) 4 ∧ s.Fresh {} (32, 139 / 4) sampleReading 4 := by
  have passed : (replay (next {} .strict) (initial 0) overlapSchedule).any
      (fun s => s.calls 1 = .returned (some ((32, 139 / 4), 4)) (some sampleReading)) = true := by
    decide +kernel
  obtain ⟨s, run, returned⟩ := run_of_test passed
  have returned := of_decide_eq_true returned
  have positive : (0 : ℚ) < ({} : WeatherClient).cacheTtlSeconds := by decide +kernel
  exact ⟨s, run, returned, (weather_fresh positive run).1 _ _ _ _ returned⟩

/-! ### Lookups of one cell -/

/-- The cell and the clock read of a call which missed the cache. -/
def State.lookup (s : State) (id : CallId) : Option (GridKey × ℚ) :=
  match s.calls id with
  | .missed key now => some (key, now)
  | _ => (s.fetches id).map fun fetch => (fetch.key, fetch.now)

/-- The cell and the clock read of a call between its miss and its cache write. -/
def Call.underWay : Call → Option (GridKey × ℚ)
  | .missed key now | .fetching key now | .fetched key now _ => some (key, now)
  | _ => none

/-- Any two fetches for one cell are of calls whose clock reads are the TTL apart. -/
def State.OneLookup (client : WeatherClient) (s : State) : Prop :=
  ∀ id other first second, id ≠ other → s.fetches id = some first → s.fetches other = some second →
    first.request = second.request → client.cacheTtlSeconds ≤ |first.now - second.now|

def Succeeds (pydantic : Pydantic) (label : Label) : Prop :=
  ∀ id exchange, label = .endFetch id exchange → ∃ reading, fetch pydantic exchange = .ok (some reading)

/-- A call which misses the cache meets no other lookup of its cell under way
from within the TTL, and a write replaces no entry with a later clock read. -/
def Undisturbed (client : WeatherClient) (s : State) : Label → Prop
  | .readCache id => ∀ key now, s.calls id = .timed key now → client.usable now (s.cache key) = false →
    ∀ other earlier, (s.calls other).underWay = some (key, earlier) →
      client.cacheTtlSeconds ≤ |now - earlier|
  | .writeCache id => ∀ key now reading, s.calls id = .fetched key now reading →
    ∀ entry, s.cache key = some entry → entry.stamp ≤ now
  | _ => True

def Orderly (client : WeatherClient) (pydantic : Pydantic) (s : State) (label : Label) : Prop :=
  Succeeds pydantic label ∧ Undisturbed client s label

/-- `apart`: the lookups of one cell are the TTL apart. `written`: one which is
no longer under way is covered by the entry of its cell. -/
structure Spaced (client : WeatherClient) (s : State) : Prop where
  apart : ∀ id other key first second, id ≠ other → s.lookup id = some (key, first) →
    s.lookup other = some (key, second) → client.cacheTtlSeconds ≤ |first - second|
  written : ∀ id key now, s.lookup id = some (key, now) →
    (s.calls id).underWay = some (key, now) ∨ ∃ entry, s.cache key = some entry ∧ now ≤ entry.stamp

theorem initial_spaced (client : WeatherClient) (clock : ℚ) : Spaced client (initial clock) where
  apart _ _ _ _ _ _ looked := by cases looked
  written _ _ _ looked := by cases looked

theorem Step.lookup_others (step : Step client pydantic s label t) {id : CallId}
    (other : label.caller ≠ some id) : t.lookup id = s.lookup id := by
  obtain ⟨calls, fetches⟩ := step.others other
  simp only [State.lookup, calls, fetches]

theorem lookup_unmissed {id : CallId} (unmissed : ∀ key now, s.calls id ≠ .missed key now) :
    s.lookup id = (s.fetches id).map fun fetch => (fetch.key, fetch.now) := by
  unfold State.lookup
  split
  · next key now missed => exact absurd missed (unmissed key now)
  · rfl

theorem enter_unmissed (lat lon : Option ℚ) (key : GridKey) (now : ℚ) :
    client.enter lat lon ≠ .missed key now := by
  rcases client.enter_cases lat lon with ⟨_, entered⟩ | ⟨_, entered⟩ | entered <;> simp [entered]

theorem conclude_unmissed (key : GridKey) (now : ℚ) (outcome : Except Exception (Option WeatherReading))
    (other : GridKey) (time : ℚ) : conclude key now outcome ≠ .missed other time := by
  unfold conclude
  split <;> simp

/-- A call becomes a lookup when it misses the cache, and at no other step. -/
theorem Step.lookup (step : Step client pydantic s label t) (id : CallId) :
    t.lookup id = s.lookup id ∨ ∃ key now, label = .readCache id ∧ s.calls id = .timed key now ∧
      client.usable now (s.cache key) = false ∧ t = s.set id (.missed key now) := by
  by_cases own : label.caller = some id
  · cases step with
    | miss timed unusable =>
      cases own
      exact .inr ⟨_, _, rfl, timed, unusable, rfl⟩
    | tick _ => exact .inl rfl
    | call idle =>
      cases own
      rw [lookup_unmissed (by simp [State.set, enter_unmissed]), lookup_unmissed (by simp [idle])]
      exact .inl rfl
    | readClock entered =>
      cases own
      rw [lookup_unmissed (by simp [State.set]), lookup_unmissed (by simp [entered])]
      exact .inl rfl
    | hit timed _ _ =>
      cases own
      rw [lookup_unmissed (by simp [State.set]), lookup_unmissed (by simp [timed])]
      exact .inl rfl
    | startFetch missed =>
      cases own
      simp [State.lookup, State.set, State.log, missed, Fetch.key, WeatherClient.request]
    | endFetch fetching logged =>
      cases own
      rw [lookup_unmissed (by simp [State.set, State.log, conclude_unmissed]),
        lookup_unmissed (by simp [fetching])]
      simp [State.set, State.log, logged, Fetch.key]
    | writeCache fetched =>
      cases own
      rw [lookup_unmissed (by simp [State.set]), lookup_unmissed (by simp [fetched])]
      exact .inl rfl
  · exact .inl (step.lookup_others own)

theorem lookup_missed (s : State) (id : CallId) (key : GridKey) (now : ℚ) :
    (s.set id (.missed key now)).lookup id = some (key, now) := by
  simp only [State.lookup, State.set, Function.update_self]

/-- A call which misses the cache is the TTL apart from every lookup before it. -/
theorem Spaced.missed (spaced : Spaced client s) {id : CallId} {key : GridKey} {now : ℚ}
    (timed : s.calls id = .timed key now) (unusable : client.usable now (s.cache key) = false)
    (undisturbed : Undisturbed client s (.readCache id)) {other : CallId} {earlier : ℚ}
    (looked : s.lookup other = some (key, earlier)) : client.cacheTtlSeconds ≤ |now - earlier| := by
  rcases spaced.written other key earlier looked with underWay | ⟨entry, cached, covered⟩
  · exact undisturbed key now timed unusable other earlier underWay
  · have old : ¬now - entry.stamp < client.cacheTtlSeconds := fun young =>
      Bool.eq_false_iff.mp unusable (usable_iff.mpr ⟨entry, cached, young⟩)
    exact (by linarith : client.cacheTtlSeconds ≤ now - earlier).trans (le_abs_self _)

theorem Spaced.apart_step (spaced : Spaced client s) (step : Step client pydantic s label t)
    (undisturbed : Undisturbed client s label) {id other : CallId} {key : GridKey} {first second : ℚ}
    (differs : id ≠ other) (looked : t.lookup id = some (key, first))
    (same : t.lookup other = some (key, second)) : client.cacheTtlSeconds ≤ |first - second| := by
  rcases step.lookup id with kept | ⟨own, now, rfl, timed, unusable, rfl⟩
  · rcases step.lookup other with others | ⟨own, now, rfl, timed, unusable, rfl⟩
    · exact spaced.apart id other key first second differs (kept ▸ looked) (others ▸ same)
    · obtain ⟨rfl, rfl⟩ := Prod.mk.inj (Option.some.inj ((lookup_missed ..).symm.trans same))
      rw [abs_sub_comm]
      exact spaced.missed timed unusable undisturbed (kept ▸ looked)
  · obtain ⟨rfl, rfl⟩ := Prod.mk.inj (Option.some.inj ((lookup_missed ..).symm.trans looked))
    have others := step.lookup_others (fun caller => differs (Option.some.inj caller))
    exact spaced.missed timed unusable undisturbed (others ▸ same)

/-- A lookup which is under way stays so until its call writes the cache. -/
theorem Step.underWay (step : Step client pydantic s label t) (succeeds : Succeeds pydantic label)
    {id : CallId} {own : GridKey × ℚ} (underWay : (s.calls id).underWay = some own) :
    (t.calls id).underWay = some own ∨ ∃ key now reading, label = .writeCache id ∧
      s.calls id = .fetched key now reading ∧ own = (key, now) := by
  by_cases caller : label.caller = some id
  · cases step with
    | tick _ => exact .inl underWay
    | call idle =>
      cases caller
      simp [idle, Call.underWay] at underWay
    | readClock entered =>
      cases caller
      simp [entered, Call.underWay] at underWay
    | hit timed _ _ | miss timed _ =>
      cases caller
      simp [timed, Call.underWay] at underWay
    | startFetch missed =>
      cases caller
      rw [missed] at underWay
      refine .inl ?_
      simpa only [State.set, State.log, Function.update_self, Call.underWay] using underWay
    | endFetch fetching logged =>
      cases caller
      obtain ⟨reading, success⟩ := succeeds _ _ rfl
      rw [fetching] at underWay
      refine .inl ?_
      simpa only [State.set, State.log, Function.update_self, success, conclude, Call.underWay] using underWay
    | writeCache fetched =>
      cases caller
      rw [fetched] at underWay
      exact .inr ⟨_, _, _, rfl, fetched, (Option.some.inj underWay).symm⟩
  · rw [(step.others caller).1]
    exact .inl underWay

/-- The entry of a cell moves to a later clock read, if at all. -/
theorem Step.entry (step : Step client pydantic s label t) (undisturbed : Undisturbed client s label)
    {key : GridKey} {entry : Entry} (cached : s.cache key = some entry) :
    ∃ later, t.cache key = some later ∧ entry.stamp ≤ later.stamp := by
  cases step with
  | @writeCache id own now reading fetched =>
    by_cases same : key = own
    · subst same
      exact ⟨_, Function.update_self .., undisturbed key now reading fetched entry cached⟩
    · exact ⟨entry, (Function.update_of_ne same ..).trans cached, le_refl _⟩
  | _ => exact ⟨entry, cached, le_refl _⟩

theorem Spaced.step (later : Inv client t) (spaced : Spaced client s)
    (step : Step client pydantic s label t) (orderly : Orderly client pydantic s label) :
    Spaced client t where
  apart _ _ _ _ _ differs looked same := spaced.apart_step step orderly.2 differs looked same
  written id key now looked := by
    rcases step.lookup id with kept | ⟨own, time, rfl, timed, _, rfl⟩
    · rcases spaced.written id key now (kept ▸ looked) with underWay | ⟨entry, cached, covered⟩
      · rcases step.underWay orderly.1 underWay with still | ⟨own, time, reading, rfl, fetched, same⟩
        · exact .inl still
        · obtain ⟨rfl, rfl⟩ := Prod.mk.inj same
          cases step with
          | writeCache written =>
            obtain ⟨rfl, rfl, rfl⟩ := Call.fetched.inj (written.symm.trans fetched)
            exact .inr ⟨_, Function.update_self .., le_refl _⟩
      · obtain ⟨newer, replaced, grown⟩ := step.entry orderly.2 cached
        exact .inr ⟨newer, replaced, covered.trans grown⟩
    · left
      rw [← looked, lookup_missed]
      simp only [State.set, Function.update_self, Call.underWay]

theorem Spaced.oneLookup (inv : Inv client s) (spaced : Spaced client s) : s.OneLookup client := by
  intro id other first second differs logged logged_other same
  have looked {id : CallId} {fetch : Fetch} (logged : s.fetches id = some fetch) :
      s.lookup id = some (fetch.key, fetch.now) := by
    rw [lookup_unmissed, logged, Option.map_some]
    intro key now missed
    have backed := inv.calls id
    rw [missed] at backed
    exact absurd (backed.2.symm.trans logged) nofun
  have one_cell : first.key = second.key := by rw [Fetch.key, Fetch.key, same]
  exact spaced.apart id other _ _ _ differs (looked logged) (one_cell ▸ looked logged_other)

/-- While no lookup disturbs another one of its cell, any two fetches for a cell
are of calls whose clock reads are the TTL apart. -/
theorem one_lookup (run : Run (Meeting (Steps (next client pydantic)) (Orderly client pydantic))
    (initial clock) ls s) : s.OneLookup client := by
  rcases le_or_gt client.cacheTtlSeconds 0 with none_kept | positive
  · exact fun _ _ _ _ _ _ _ _ => none_kept.trans (abs_nonneg _)
  · suffices both : Inv client s ∧ Spaced client s from both.2.oneLookup both.1
    refine run.invariant (P := fun s => Inv client s ∧ Spaced client s) (fun held moved => ?_)
      ⟨initial_inv client clock, initial_spaced client clock⟩
    have step := next_step moved.1
    have later := held.1.step positive step
    exact ⟨later, held.2.step later step moved.2⟩

/-- The calls of the test: two positions of one cell, and the first again after the TTL. -/
def refetchSchedule : List Label :=
  entering 0 ++ [.startFetch 0, .endFetch 0 answered, .writeCache 0, .tick 300] ++ entering 1 ++
    [.tick 700] ++ entering 2 ++ [.startFetch 2, .endFetch 2 answered, .writeCache 2]

private def underWayApart (s : State) (id other : CallId) : Bool :=
  match s.calls id, (s.calls other).underWay with
  | .timed key now, some (cell, earlier) => cell ≠ key || (600 : ℚ) ≤ |now - earlier|
  | _, _ => true

private def orderlyAmong (count : Nat) (s : State) (label : Label) : Bool :=
  label.caller.all (· < count) &&
    match label with
    | .readCache id => (List.range count).all (underWayApart s id)
    | .writeCache id =>
      match s.calls id with
      | .fetched key now _ => (s.cache key).all (·.stamp ≤ now)
      | _ => true
    | .endFetch _ exchange => fetch .strict exchange = .ok (some sampleReading)
    | _ => true

private theorem orderlyAmong_sound {count : Nat} (idle : ∀ id, count ≤ id → s.calls id = .idle)
    (checked : orderlyAmong count s label = true) : Orderly {} .strict s label := by
  simp only [orderlyAmong, Bool.and_eq_true] at checked
  obtain ⟨-, checked⟩ := checked
  constructor
  · rintro id exchange rfl
    exact ⟨sampleReading, of_decide_eq_true checked⟩
  · cases label with
    | readCache id =>
      intro key now timed _ other earlier underWay
      have listed : other ∈ List.range count := by
        by_contra outside
        rw [idle other (by simpa using outside)] at underWay
        cases underWay
      have apart := List.all_eq_true.mp checked other listed
      simp only [underWayApart, timed, underWay] at apart
      simpa using apart
    | writeCache id =>
      intro key now reading fetched entry cached
      simp only [fetched, cached, Option.all_some] at checked
      exact of_decide_eq_true checked
    | _ => trivial

private theorem idle_kept {count : Nat} (idle : ∀ id, count ≤ id → s.calls id = .idle)
    (step : Step client pydantic s label t) (among : label.caller.all (· < count) = true) (id : CallId)
    (outside : count ≤ id) : t.calls id = .idle := by
  rw [(step.others ?_).1, idle id outside]
  intro caller
  rw [caller, Option.all_some, decide_eq_true_eq] at among
  exact Nat.not_le.mpr among outside

private theorem orderly_run {count : Nat} (run : Run (Steps (guarded (next {} .strict) (orderlyAmong count)))
    (initial clock) ls s) : Run (Meeting (Steps (next {} .strict)) (Orderly {} .strict)) (initial clock) ls s := by
  refine run.meeting (P := fun s => ∀ id, count ≤ id → s.calls id = .idle) (fun idle moved => ?_)
    (fun _ _ => rfl)
  obtain ⟨checked, moved⟩ := Option.ite_none_right_eq_some.mp moved
  have among := (Bool.and_eq_true _ _ ▸ checked).1
  exact ⟨idle_kept idle (next_step moved) among, moved, orderlyAmong_sound idle checked⟩

theorem one_lookup_refetch : ∃ s,
    Run (Meeting (Steps (next {} .strict)) (Orderly {} .strict)) (initial 0) refetchSchedule s ∧
      (s.fetches 2).isSome = true ∧ s.OneLookup {} := by
  have passed : (replay (guarded (next {} .strict) (orderlyAmong 3)) (initial 0) refetchSchedule).any
      (fun s => (s.fetches 2).isSome) = true := by decide +kernel
  obtain ⟨s, run, fetched⟩ := run_of_test passed
  have run := orderly_run run
  exact ⟨s, run, fetched, one_lookup run⟩

/-- Two workers find the cold cache empty. -/
def coldSchedule : List Label :=
  entering 0 ++ entering 1 ++ [.startFetch 0, .startFetch 1, .endFetch 0 answered, .endFetch 1 answered]

private def fetchedTwice (s : State) : Bool :=
  (s.fetches 0).isSome &&
    (s.fetches 0).map (fun fetch => (fetch.request, fetch.now)) =
      (s.fetches 1).map fun fetch => (fetch.request, fetch.now)

/-- Both calls read the clock at 0 and both fetch the cell. -/
theorem cold_cache_fetches_twice :
    ¬ ∀ client pydantic clock ls s, 0 < client.cacheTtlSeconds →
      Run (Meeting (Steps (next client pydantic)) fun _ label => Succeeds pydantic label)
        (initial clock) ls s → s.OneLookup client := by
  intro one
  have passed : (replay (guarded (next {} .strict) fun _ label =>
      match label with
      | .endFetch _ exchange => fetch .strict exchange = .ok (some sampleReading)
      | _ => true) (initial 0) coldSchedule).any fetchedTwice = true := by decide +kernel
  obtain ⟨s, run, twice⟩ := run_of_test passed
  have run : Run (Meeting (Steps (next {} .strict)) fun _ label => Succeeds .strict label)
      (initial 0) coldSchedule s := by
    refine run.of_guarded fun s label checked => ?_
    rintro id exchange rfl
    exact ⟨sampleReading, of_decide_eq_true checked⟩
  have positive : (0 : ℚ) < ({} : WeatherClient).cacheTtlSeconds := by decide +kernel
  simp only [fetchedTwice, Bool.and_eq_true, decide_eq_true_eq] at twice
  obtain ⟨some_fetch, same⟩ := twice
  obtain ⟨first, logged⟩ := Option.isSome_iff_exists.mp some_fetch
  rw [logged, Option.map_some] at same
  obtain ⟨second, logged_second, pair⟩ := Option.map_eq_some_iff.mp same.symm
  obtain ⟨request, time⟩ := Prod.mk.inj pair
  have apart := one {} .strict 0 _ s positive run 0 1 first second (by simp) logged logged_second
    request.symm
  rw [time, sub_self, abs_zero] at apart
  exact absurd positive (not_lt.mpr apart)

end FlightHub.WeatherClient
