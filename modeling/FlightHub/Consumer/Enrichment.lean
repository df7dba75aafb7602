import FlightHub.Consumer.Settlement
import FlightHub.Consumer.WeatherGrid
import FlightHub.Dashboard.Snapshot

/-! The workers of `consumer/main.py` with the weather client which they share. A
worker calls `get_weather` for the position of its message, so the weather which
is stored with a flight is that of its own cell. A new process begins with an
empty cache. -/
namespace FlightHub
open Python Postgres Transition

namespace Enrichment

/-- The settings of the service and what is not part of the repository. -/
structure World where
  settings : Consumer.Settings
  driver : Driver
  client : WeatherClient
  pydantic : Pydantic

structure State where
  consumer : Consumer.State
  weather : WeatherClient.State

def initial (clock : ℚ) : State := ⟨Consumer.initial .empty, WeatherClient.initial clock⟩

/-- A call of `get_weather` is named by the delivery which it is made for. -/
inductive Label where
  | consumer (label : Consumer.Label)
  | weather (label : WeatherClient.Label)
  | getWeather (tag : Consumer.Tag)
  | process (tag : Consumer.Tag)

/-- The steps of the service in which the client takes no part. -/
def plain : Consumer.Label → Bool
  | .enrich _ _ | .restart => false
  | _ => true

/-- A worker moves its call while it is at the lookup; the clock moves by itself. -/
def State.admits (s : State) : WeatherClient.Label → Bool
  | .call _ _ _ => false
  | label => label.caller.all fun tag => s.consumer.running.lookup tag = some .received

/-- The client of the next process; the log of the fetches goes on. -/
def renewed (s : WeatherClient.State) : WeatherClient.State := { s with cache := fun _ => none }

/-- What the call has come to, `some none` where it raised. -/
def ended : WeatherClient.Call → Option (Option (Option WeatherReading))
  | .returned _ reading => some (some reading)
  | .raised _ => some none
  | _ => none

/-- A body which is no message is refused before the lookup. -/
def State.lookup (s : State) (tag : Consumer.Tag) : Option (Option (Option WeatherReading)) :=
  match s.consumer.body tag with
  | some (some _) => ended (s.weather.calls tag)
  | _ => some none

section Steps
variable (world : World)

def consumerNext : Consumer.State → Consumer.Label → Option Consumer.State :=
  Consumer.next world.settings world.driver

def weatherNext : WeatherClient.State → WeatherClient.Label → Option WeatherClient.State :=
  WeatherClient.next world.client world.pydantic

def next (s : State) : Label → Option State
  | .consumer .restart =>
    (consumerNext world s.consumer .restart).map fun consumer => ⟨consumer, renewed s.weather⟩
  | .consumer label =>
    if plain label then (consumerNext world s.consumer label).map fun consumer => { s with consumer }
    else none
  | .weather label =>
    if s.admits label then (weatherNext world s.weather label).map fun weather => { s with weather }
    else none
  | .getWeather tag =>
    match s.consumer.running.lookup tag, s.consumer.body tag with
    | some .received, some (some message) =>
      (weatherNext world s.weather (.call tag message.state.latitude message.state.longitude)).map
        fun weather => { s with weather }
    | _, _ => none
  | .process tag => do
    let lookup ← s.lookup tag
    let consumer ← consumerNext world s.consumer (.enrich tag lookup)
    some { s with consumer }

end Steps

variable {world : World} {s t : State} {label : Label} {tag : Consumer.Tag} {flight : EnrichedFlight}

inductive Step (world : World) (s : State) : Label → State → Prop where
  | consumer {label : Consumer.Label} {consumer : Consumer.State} (own : plain label = true)
      (moved : consumerNext world s.consumer label = some consumer) :
      Step world s (.consumer label) { s with consumer }
  | restart {consumer : Consumer.State} (moved : consumerNext world s.consumer .restart = some consumer) :
      Step world s (.consumer .restart) ⟨consumer, renewed s.weather⟩
  | weather {label : WeatherClient.Label} {weather : WeatherClient.State} (admitted : s.admits label = true)
      (moved : weatherNext world s.weather label = some weather) :
      Step world s (.weather label) { s with weather }
  | getWeather {tag : Consumer.Tag} {message : FlightMessage} {weather : WeatherClient.State}
      (received : s.consumer.running.lookup tag = some .received)
      (body : s.consumer.body tag = some (some message))
      (moved : weatherNext world s.weather
        (.call tag message.state.latitude message.state.longitude) = some weather) :
      Step world s (.getWeather tag) { s with weather }
  | process {tag : Consumer.Tag} {lookup : Option (Option WeatherReading)} {consumer : Consumer.State}
      (looked : s.lookup tag = some lookup)
      (moved : consumerNext world s.consumer (.enrich tag lookup) = some consumer) :
      Step world s (.process tag) { s with consumer }

theorem next_step (moved : next world s label = some t) : Step world s label t := by
  cases label with
  | consumer label =>
    by_cases restarts : label = .restart
    · subst restarts
      obtain ⟨consumer, called, rfl⟩ := Option.map_eq_some_iff.mp moved
      exact .restart called
    · rw [next] at moved
      · obtain ⟨own, moved⟩ := Option.ite_none_right_eq_some.mp moved
        obtain ⟨consumer, called, rfl⟩ := Option.map_eq_some_iff.mp moved
        exact .consumer own called
      · exact restarts
  | weather label =>
    obtain ⟨admitted, moved⟩ := Option.ite_none_right_eq_some.mp moved
    obtain ⟨weather, called, rfl⟩ := Option.map_eq_some_iff.mp moved
    exact .weather admitted called
  | getWeather tag =>
    simp only [next] at moved
    split at moved
    · next message received body =>
      obtain ⟨weather, called, rfl⟩ := Option.map_eq_some_iff.mp moved
      exact .getWeather received body called
    · cases moved
  | process tag =>
    obtain ⟨lookup, looked, moved⟩ := Option.bind_eq_some_iff.mp moved
    obtain ⟨consumer, called, moved⟩ := Option.bind_eq_some_iff.mp moved
    cases moved
    exact .process looked called

/-- The service moves as it does alone, whatever its lookups come to. -/
theorem Step.consumer_moves (step : Step world s label t) : t.consumer = s.consumer ∨
    ∃ own, consumerNext world s.consumer own = some t.consumer := by
  cases step with
  | consumer _ moved | restart moved | process _ moved => exact .inr ⟨_, moved⟩
  | weather _ _ | getWeather _ _ _ => exact .inl rfl

theorem run_consumer {ls : List Label} {clock : ℚ} (run : Run (Steps (next world)) (initial clock) ls s) :
    ∃ ms, Run (Steps (Consumer.next world.settings world.driver)) (Consumer.initial .empty) ms s.consumer :=
  run.project State.consumer fun moved => (next_step moved).consumer_moves

/-! ### What is stored of a lookup -/

/-- The flight is that of the message and of what its call of `get_weather` returned. -/
def State.Looked (s : State) (tag : Consumer.Tag) (flight : EnrichedFlight) : Prop :=
  ∃ message own reading, s.consumer.body tag = some (some message) ∧
    s.weather.calls tag = .returned own reading ∧
      EnrichedFlight.fromFlightMessage message reading = .ok flight

/-- The call is one for the position of the message. -/
def Concerns (client : WeatherClient) (message : FlightMessage) (call : WeatherClient.Call) : Prop :=
  match message.state.latitude, message.state.longitude with
  | some lat, some lon => call.Concerns (client.gridKey lat lon)
  | _, _ => call = .returned none none

structure Linked (world : World) (s : State) : Prop where
  consumer : Consumer.Tracked world.driver .empty s.consumer
  weather : WeatherClient.Inv world.client s.weather
  asked : ∀ tag, s.weather.calls tag ≠ .idle → ∃ message,
    s.consumer.body tag = some (some message) ∧ Concerns world.client message (s.weather.calls tag)
  carried : ∀ tag flight, (s.consumer.repository.calls tag).flight = some flight → s.Looked tag flight
  committed : ∀ commit ∈ s.consumer.repository.commits, s.Looked commit.call commit.flight

theorem initial_linked (world : World) (clock : ℚ) : Linked world (initial clock) where
  consumer := Consumer.initial_tracked world.driver .empty
  weather := WeatherClient.initial_inv world.client clock
  asked tag called := absurd rfl called
  carried tag flight known := by
    simp [initial, Consumer.initial, Repository.initial, Repository.CallState.flight] at known
  committed commit member := by simp [initial, Consumer.initial, Repository.initial] at member

theorem flight_called {label : Consumer.Label} {u v : Consumer.State}
    (other : plain label = true ∨ label = .restart)
    (moved : consumerNext world u label = some v) (known : (v.repository.calls tag).flight = some flight) :
    (u.repository.calls tag).flight = some flight := by
  cases Consumer.next_step moved with
  | store alive own stored =>
    rcases (Repository.next_step stored).flight known with before | called
    · exact before
    · exact absurd called (own tag flight)
  | schedule found =>
    unfold Consumer.State.addCallback at known
    split at known <;> exact known
  | close _ _ _ | crash _ | restart _ =>
    exact absurd ((Repository.interrupted_flight _).symm.trans known) nofun
  | failed _ _ | enriched _ _ _ => simp [plain] at other
  | _ => exact known

/-- The call which `_process_message` makes is that of the message with its weather. -/
theorem flight_processed {lookup : Option (Option WeatherReading)} {u v : Consumer.State} {own : Consumer.Tag}
    (moved : consumerNext world u (.enrich own lookup) = some v)
    (known : (v.repository.calls tag).flight = some flight) :
    (u.repository.calls tag).flight = some flight ∨ tag = own ∧ ∃ message weather,
      u.body tag = some (some message) ∧ lookup = some weather ∧
        EnrichedFlight.fromFlightMessage message weather = .ok flight := by
  simp only [consumerNext, Consumer.next] at moved
  split at moved
  · unfold Consumer.processMessage at moved
    split at moved
    · cases moved
    · cases moved
      exact .inl known
    · cases moved
      exact .inl known
    · next message weather body =>
      split at moved
      · cases moved
        exact .inl known
      · next made ok =>
        obtain ⟨repository, called, rfl⟩ := Option.map_eq_some_iff.mp moved
        rcases (Repository.next_step called).flight known with before | same
        · exact .inl before
        · cases same
          exact .inr ⟨rfl, message, weather, body, rfl, ok⟩
  · cases moved

theorem lookup_eq_some {reading : Option WeatherReading} {message : FlightMessage}
    (body : s.consumer.body tag = some (some message)) (looked : s.lookup tag = some (some reading)) :
    ∃ own, s.weather.calls tag = .returned own reading := by
  simp only [State.lookup, body] at looked
  unfold ended at looked
  split at looked
  · next own other returned =>
    cases looked
    exact ⟨own, returned⟩
  · cases looked
  · cases looked

/-- A call which has returned is at its end. -/
theorem returned_kept {label : WeatherClient.Label} {u v : WeatherClient.State} {id : WeatherClient.CallId}
    {own : Option (GridKey × ℚ)} {reading : Option WeatherReading} (moved : weatherNext world u label = some v)
    (returned : u.calls id = .returned own reading) : v.calls id = .returned own reading := by
  have step := WeatherClient.next_step moved
  by_cases caller : label.caller = some id
  · cases step with
    | tick later => cases caller
    | call at_call | readClock at_call | hit at_call _ _ | miss at_call _ | startFetch at_call
    | endFetch at_call _ | writeCache at_call =>
      cases caller
      rw [returned] at at_call
      cases at_call
  · rw [(step.others caller).1]
    exact returned

theorem enter_answers (client : WeatherClient) (message : FlightMessage) :
    Concerns client message (client.enter message.state.latitude message.state.longitude) := by
  unfold Concerns
  cases message.state.latitude with
  | none => rfl
  | some lat =>
    cases message.state.longitude with
    | none => rfl
    | some lon => exact WeatherClient.enter_concerns lat lon

theorem concerns_kept {label : WeatherClient.Label} {u v : WeatherClient.State} {message : FlightMessage}
    (moved : weatherNext world u label = some v) (concerns : Concerns world.client message (u.calls tag)) :
    Concerns world.client message (v.calls tag) := by
  unfold Concerns at concerns ⊢
  split
  · next lat lon latitude longitude =>
    simp only [latitude, longitude] at concerns
    exact (WeatherClient.next_step moved).concerns concerns
  · next absent =>
    split at concerns
    · next latitude longitude => exact absurd longitude (absent _ _ latitude)
    · exact returned_kept moved concerns

/-! ### Runs -/

section Steps

theorem State.Looked.grow (looked : s.Looked tag flight)
    (bodies : ∀ message, s.consumer.body tag = some (some message) → t.consumer.body tag = some (some message))
    (calls : ∀ own reading, s.weather.calls tag = .returned own reading →
      t.weather.calls tag = .returned own reading) : t.Looked tag flight := by
  obtain ⟨message, own, reading, body, returned, made⟩ := looked
  exact ⟨message, own, reading, bodies message body, calls own reading returned, made⟩

theorem Step.body_kept (step : Step world s label t) {body : Consumer.Body}
    (found : s.consumer.body tag = some body) : t.consumer.body tag = some body := by
  rcases step.consumer_moves with same | ⟨own, moved⟩
  · rw [same]
    exact found
  · exact (Consumer.next_step moved).grows.body found

theorem Step.returned_kept (step : Step world s label t) {own : Option (GridKey × ℚ)}
    {reading : Option WeatherReading} (returned : s.weather.calls tag = .returned own reading) :
    t.weather.calls tag = .returned own reading := by
  cases step with
  | consumer _ _ | restart _ | process _ _ => exact returned
  | weather _ moved | getWeather _ _ moved => exact Enrichment.returned_kept moved returned

theorem State.Looked.step (looked : s.Looked tag flight) (step : Step world s label t) : t.Looked tag flight :=
  looked.grow (fun _ => step.body_kept) fun _ _ => step.returned_kept

theorem Step.carried (step : Step world s label t) (linked : Linked world s)
    (known : (t.consumer.repository.calls tag).flight = some flight) : s.Looked tag flight := by
  cases step with
  | consumer own moved => exact linked.carried tag flight (flight_called (.inl own) moved known)
  | restart moved => exact linked.carried tag flight (flight_called (.inr rfl) moved known)
  | weather _ _ | getWeather _ _ _ => exact linked.carried tag flight known
  | process looked moved =>
    rcases flight_processed moved known with before | ⟨rfl, message, weather, body, rfl, made⟩
    · exact linked.carried tag flight before
    · obtain ⟨own, returned⟩ := lookup_eq_some body looked
      exact ⟨message, own, weather, body, returned, made⟩

theorem Linked.tracked (linked : Linked world s) (step : Step world s label t) :
    Consumer.Tracked world.driver .empty t.consumer := by
  rcases step.consumer_moves with same | ⟨own, moved⟩
  · rw [same]
    exact linked.consumer
  · exact linked.consumer.step (Consumer.next_step moved)

theorem Linked.asked_step (linked : Linked world s) (step : Step world s label t)
    (called : t.weather.calls tag ≠ .idle) : ∃ message, s.consumer.body tag = some (some message) ∧
      Concerns world.client message (t.weather.calls tag) := by
  cases step with
  | consumer _ _ | restart _ | process _ _ => exact linked.asked tag called
  | @weather label weather admitted moved =>
    have begun : s.weather.calls tag ≠ .idle := by
      intro idle
      refine called ?_
      have step := WeatherClient.next_step moved
      by_cases caller : label.caller = some tag
      · cases step with
        | tick later => cases caller
        | call _ => cases admitted
        | readClock at_call | hit at_call _ _ | miss at_call _ | startFetch at_call | endFetch at_call _
        | writeCache at_call =>
          cases caller
          rw [idle] at at_call
          cases at_call
      · rw [(step.others caller).1]
        exact idle
    obtain ⟨message, body, concerns⟩ := linked.asked tag begun
    exact ⟨message, body, concerns_kept moved concerns⟩
  | @getWeather own message weather _ body moved =>
    by_cases same : tag = own
    · subst same
      refine ⟨message, body, ?_⟩
      cases WeatherClient.next_step moved with
      | call idle =>
        simp only [WeatherClient.State.set, Function.update_self]
        exact enter_answers world.client message
    · have foreign :
          (WeatherClient.Label.call own message.state.latitude message.state.longitude).caller ≠ some tag := by
        simpa [WeatherClient.Label.caller] using Ne.symm same
      rw [((WeatherClient.next_step moved).others foreign).1] at called ⊢
      exact linked.asked tag called

theorem Linked.step (positive : 0 < world.client.cacheTtlSeconds) (linked : Linked world s)
    (step : Step world s label t) : Linked world t where
  consumer := linked.tracked step
  weather := by
    cases step with
    | consumer _ _ | process _ _ => exact linked.weather
    | restart _ => exact ⟨linked.weather.calls, fun _ _ cached => nomatch cached⟩
    | weather _ moved | getWeather _ _ moved => exact linked.weather.step positive (WeatherClient.next_step moved)
  asked tag called := by
    obtain ⟨message, body, concerns⟩ := linked.asked_step step called
    exact ⟨message, step.body_kept body, concerns⟩
  carried tag flight known := (step.carried linked known).step step
  committed commit member := by
    rcases step.consumer_moves with same | ⟨own, moved⟩
    · rw [same] at member
      exact (linked.committed commit member).step step
    · rcases (Consumer.next_step moved).commits with kept | ⟨tag, _, flight, _, _, _, known, grown⟩
      · rw [kept] at member
        exact (linked.committed commit member).step step
      · rw [grown] at member
        rcases List.mem_append.mp member with before | last
        · exact (linked.committed commit before).step step
        · rw [List.mem_singleton.mp last]
          exact (linked.carried tag flight known).step step

theorem run_linked {ls : List Label} {clock : ℚ} (positive : 0 < world.client.cacheTtlSeconds)
    (run : Run (Steps (next world)) (initial clock) ls s) : Linked world s :=
  run.invariant (fun linked moved => linked.step positive (next_step moved)) (initial_linked world clock)

end Steps

/-! ### The stored weather -/

section Runs
variable {ls : List Label} {clock : ℚ}

/-- The time of a lookup is that which it read from the clock. -/
theorem run_timed {key : GridKey} {now : ℚ} (run : Run (Steps (next world)) (initial clock) ls s)
    (known : (s.weather.calls tag).own = some (key, now)) :
    ∃ u, Taken (Steps (next world)) (initial clock) ls u (.weather (.readClock tag)) ∧
      u.weather.clock = now := by
  obtain ⟨before, rest, u, l, v, rfl, earlier, moved, other, begun⟩ :=
    run.crossing (P := fun s => (s.weather.calls tag).own = some (key, now)) nofun known
  cases next_step moved with
  | consumer _ _ | restart _ | process _ _ => exact absurd begun other
  | weather _ called =>
    obtain ⟨own, -, rfl, same⟩ := (WeatherClient.next_step called).own_new other begun
    exact ⟨u, ⟨before, rest, rfl, earlier⟩, (Prod.mk.inj same).2.symm⟩
  | getWeather _ _ called =>
    obtain ⟨own, -, read, -⟩ := (WeatherClient.next_step called).own_new other begun
    cases read

end Runs

/-- A flight over (32.05, 34.85), whose cell is that of (32, 34.75). -/
def overland : FlightMessage where
  fetchedAt := ⟨1735400018000000, by decide, by decide⟩
  state := {
    icao24 := "738065", originCountry := "Israel"
    latitude := some (641 / 20), longitude := some (697 / 20) }

/-- Another flight in that cell. -/
def nearby : FlightMessage where
  fetchedAt := ⟨1735400018000000, by decide, by decide⟩
  state := {
    icao24 := "4b1805", originCountry := "Switzerland"
    latitude := some 32, longitude := some (174 / 5) }

def stored (tag : Consumer.Tag) : List Label := [
  .consumer (.store (.acquire tag)), .consumer (.store (.upsert tag .accepted 1735400019000000)),
  .consumer (.store (.append tag .accepted 1735400019000000)), .consumer (.store (.commit tag .accepted))]

/-- The first lookup fetches, and the second finds its reading in the cache. -/
def lookedUp : List Label := [
  .consumer (.publish overland), .consumer .deliver, .consumer .start, .getWeather 0, .weather (.readClock 0),
  .weather (.readCache 0), .consumer (.publish nearby), .consumer .deliver, .consumer .start,
  .weather (.startFetch 0), .weather (.tick 4), .weather (.endFetch 0 WeatherClient.answered),
  .weather (.writeCache 0), .process 0, .getWeather 1, .weather (.readClock 1), .weather (.readCache 1),
  .process 1] ++ stored 1 ++ stored 0

def defaults : World := ⟨{}, fun _ => true, {}, .strict⟩

end Enrichment
end FlightHub
