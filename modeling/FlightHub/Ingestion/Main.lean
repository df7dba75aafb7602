import FlightHub.Common.Config
import FlightHub.Ingestion.Fetch
import FlightHub.Ingestion.Sending

/-! The ingestion service, `ingestion/main.py`: it polls OpenSky, publishes each
state vector and sleeps for the rest of the interval. The clock, the shutdown
signal and the steps of the publisher's connections fall between any two of its
own. A request takes one step; the time it needs is that of the clock. -/
namespace FlightHub
open Python Transition

namespace Ingestion

structure Settings extends FlightHub.Settings where
  openskyClientId : Option String := none
  openskyClientSecret : Option String := none
  openskyBaseUrl : String := "https://opensky-network.org/api"
  pollIntervalSeconds : ℚ := 12

def Settings.auth (settings : Settings) : Option OpenSkyAuth :=
  if settings.openskyClientId.any (· ≠ "") && settings.openskyClientSecret.any (· ≠ "") then
    some { clientId := settings.openskyClientId, clientSecret := settings.openskyClientSecret }
  else none

def Settings.opensky (settings : Settings) : OpenSkyClient :=
  .init settings.openskyBaseUrl (settings.openskyLamin, settings.openskyLamax, settings.openskyLomin,
    settings.openskyLomax) settings.auth

/-- One pass through the loop. `first` is the number which its first call of
`publish` has or would have, `published` counts those it made, and `completed`
is whether it touched the heartbeat file. -/
structure Cycle where
  start : ℚ
  first : Nat
  entries : List Json := []
  fetched : List StateVector := []
  published : Nat := 0
  completed : Bool := false

/-- Where `run` stands: before and in `publisher.connect()`, at the head of the
loop, in its `try` statement, after it, asleep, or out of the loop; `failed`
when `connect` raised. -/
inductive Stage where
  | starting
  | connecting
  | ready
  | polling (cycle : Cycle)
  | publishing (cycle : Cycle) (rest : List StateVector)
  | calling (cycle : Cycle) (rest : List StateVector)
  | pausing (cycle : Cycle)
  | sleeping (deadline : ℚ)
  | stopped
  | failed

def Stage.cycle : Stage → Option Cycle
  | .polling cycle | .publishing cycle _ | .calling cycle _ | .pausing cycle => some cycle
  | _ => none

/-- How the call of `connect` before the loop goes on after a step of the publisher. -/
def Stage.connected : Stage → RabbitMQPublisher.Label → RabbitMQPublisher.Phase → Stage
  | .connecting, .ready, _ => .ready
  | .connecting, .refuse _ _ _, .idle => .failed
  | stage, _, _ => stage

/-- `cycles` holds the cycles which are over, `heartbeats` the times at which
the heartbeat file was touched. -/
structure State where
  clock : ℚ
  client : OpenSkyClient
  shutdownRequested : Bool := false
  stage : Stage := .starting
  publisher : RabbitMQPublisher.State := {}
  cycles : List Cycle := []
  heartbeats : List ℚ := []

def initial (settings : Settings) (clock : ℚ) : State := { clock, client := settings.opensky }

inductive Label where
  | tick (elapsed : ℚ)
  | signal
  | publisher (label : RabbitMQPublisher.Label)
  | connect
  | begin
  | fetch (mets : Nat → OpenSkyClient.Attempt)
  | publish (now : Datetime)
  | resume
  | report (touched : Bool)
  | pause
  | wake
  | leave

/-- The cycles which are over and the one at work. -/
def State.allCycles (s : State) : List Cycle := s.cycles ++ s.stage.cycle.toList

/-- `max(0.0, poll_interval_seconds - (time.monotonic() - cycle_start))`. -/
def sleepFor (settings : Settings) (now start : ℚ) : ℚ :=
  max 0 (settings.pollIntervalSeconds - (now - start))

section Steps
variable (pydantic : Pydantic) (settings : Settings)

def next (s : State) : Label → Option State
  | .tick elapsed => if 0 ≤ elapsed then some { s with clock := s.clock + elapsed } else none
  | .signal => some { s with shutdownRequested := true }
  | .publisher label =>
    if label.isCall then none
    else (RabbitMQPublisher.next s.publisher label).map fun publisher =>
      { s with publisher, stage := s.stage.connected label publisher.phase }
  | .connect =>
    match s.stage with
    | .starting => (RabbitMQPublisher.next s.publisher .connect).map fun publisher =>
      { s with publisher, stage := .connecting }
    | _ => none
  | .begin =>
    match s.stage with
    | .ready =>
      if s.shutdownRequested then none
      else some { s with
        stage := .polling { start := s.clock, first := s.publisher.messages.length } }
    | _ => none
  | .fetch mets =>
    match s.stage with
    | .polling cycle =>
      let client := s.client.afterFetch pydantic mets
      match s.client.fetchStates pydantic mets with
      | .ok fetched =>
        let entries := (s.client.answeredEntries pydantic mets).toOption.getD []
        some { s with client, stage := .publishing { cycle with entries, fetched } fetched }
      | .error _ => some { s with client, stage := .pausing cycle }
    | _ => none
  | .publish now =>
    match s.stage with
    | .publishing cycle (state :: rest) =>
      (RabbitMQPublisher.next s.publisher (.publish ⟨state, now⟩)).map fun publisher =>
        { s with publisher, stage := .calling { cycle with published := cycle.published + 1 } rest }
    | _ => none
  | .resume =>
    match s.stage, s.publisher.phase, s.publisher.outcomes.getLast? with
    | .calling cycle rest, .idle, some (.returned _) =>
      some { s with stage := .publishing cycle rest }
    | .calling cycle _, .idle, some .raised => some { s with stage := .pausing cycle }
    | _, _, _ => none
  | .report touched =>
    match s.stage with
    | .publishing cycle [] =>
      if touched then
        some { s with
          stage := .pausing { cycle with completed := true }
          heartbeats := s.heartbeats ++ [s.clock] }
      else some { s with stage := .pausing cycle }
    | _ => none
  | .pause =>
    match s.stage with
    | .pausing cycle =>
      some { s with
        stage := .sleeping (s.clock + sleepFor settings s.clock cycle.start)
        cycles := s.cycles ++ [cycle] }
    | _ => none
  | .wake =>
    -- a signal does not cut the sleep short
    match s.stage with
    | .sleeping deadline => if deadline ≤ s.clock then some { s with stage := .ready } else none
    | _ => none
  | .leave =>
    match s.stage with
    | .ready => if s.shutdownRequested then some { s with stage := .stopped } else none
    | _ => none

end Steps

section Inversion
variable {pydantic : Pydantic} {settings : Settings} {s t : State}

/-- The steps of the service, one constructor for each branch. -/
inductive Step (pydantic : Pydantic) (settings : Settings) (s : State) : Label → State → Prop where
  | tick {elapsed : ℚ} (forward : 0 ≤ elapsed) :
      Step pydantic settings s (.tick elapsed) { s with clock := s.clock + elapsed }
  | signal : Step pydantic settings s .signal { s with shutdownRequested := true }
  | publisher {label : RabbitMQPublisher.Label} {publisher : RabbitMQPublisher.State}
      (own : label.isCall = false) (moved : RabbitMQPublisher.next s.publisher label = some publisher) :
      Step pydantic settings s (.publisher label)
        { s with publisher, stage := s.stage.connected label publisher.phase }
  | connect {publisher : RabbitMQPublisher.State} (starting : s.stage = .starting)
      (moved : RabbitMQPublisher.next s.publisher .connect = some publisher) :
      Step pydantic settings s .connect { s with publisher, stage := .connecting }
  | begin (ready : s.stage = .ready) (running : s.shutdownRequested = false) :
      Step pydantic settings s .begin
        { s with stage := .polling { start := s.clock, first := s.publisher.messages.length } }
  | fetched {mets : Nat → OpenSkyClient.Attempt} {cycle : Cycle} {fetched : List StateVector}
      (polling : s.stage = .polling cycle)
      (returned : s.client.fetchStates pydantic mets = .ok fetched) :
      Step pydantic settings s (.fetch mets) { s with
        client := s.client.afterFetch pydantic mets
        stage := .publishing { cycle with
          entries := (s.client.answeredEntries pydantic mets).toOption.getD [], fetched } fetched }
  | unfetched {mets : Nat → OpenSkyClient.Attempt} {cycle : Cycle} (polling : s.stage = .polling cycle) :
      Step pydantic settings s (.fetch mets)
        { s with client := s.client.afterFetch pydantic mets, stage := .pausing cycle }
  | publish {now : Datetime} {cycle : Cycle} {state : StateVector} {rest : List StateVector}
      {publisher : RabbitMQPublisher.State} (publishing : s.stage = .publishing cycle (state :: rest))
      (moved : RabbitMQPublisher.next s.publisher (.publish ⟨state, now⟩) = some publisher) :
      Step pydantic settings s (.publish now) { s with
        publisher, stage := .calling { cycle with published := cycle.published + 1 } rest }
  | returned {cycle : Cycle} {rest : List StateVector} {again : Bool}
      (calling : s.stage = .calling cycle rest) (idle : s.publisher.phase = .idle)
      (ended : s.publisher.outcomes.getLast? = some (.returned again)) :
      Step pydantic settings s .resume { s with stage := .publishing cycle rest }
  | raised {cycle : Cycle} {rest : List StateVector} (calling : s.stage = .calling cycle rest)
      (idle : s.publisher.phase = .idle) (ended : s.publisher.outcomes.getLast? = some .raised) :
      Step pydantic settings s .resume { s with stage := .pausing cycle }
  | touched {cycle : Cycle} (published : s.stage = .publishing cycle []) :
      Step pydantic settings s (.report true) { s with
        stage := .pausing { cycle with completed := true }
        heartbeats := s.heartbeats ++ [s.clock] }
  | untouched {cycle : Cycle} (published : s.stage = .publishing cycle []) :
      Step pydantic settings s (.report false) { s with stage := .pausing cycle }
  | pause {cycle : Cycle} (pausing : s.stage = .pausing cycle) :
      Step pydantic settings s .pause { s with
        stage := .sleeping (s.clock + sleepFor settings s.clock cycle.start)
        cycles := s.cycles ++ [cycle] }
  | wake {deadline : ℚ} (sleeping : s.stage = .sleeping deadline) (due : deadline ≤ s.clock) :
      Step pydantic settings s .wake { s with stage := .ready }
  | leave (ready : s.stage = .ready) (requested : s.shutdownRequested = true) :
      Step pydantic settings s .leave { s with stage := .stopped }

theorem next_step {label : Label} (moved : next pydantic settings s label = some t) :
    Step pydantic settings s label t := by
  cases label with
  | tick elapsed =>
    obtain ⟨forward, moved⟩ := Option.ite_none_right_eq_some.mp moved
    cases moved
    exact .tick forward
  | signal =>
    cases moved
    exact .signal
  | publisher label =>
    obtain ⟨own, moved⟩ := Option.ite_none_left_eq_some.mp moved
    obtain ⟨publisher, called, rfl⟩ := Option.map_eq_some_iff.mp moved
    exact .publisher (Bool.not_eq_true _ ▸ own) called
  | connect =>
    simp only [next] at moved
    split at moved
    · next starting =>
      obtain ⟨publisher, called, rfl⟩ := Option.map_eq_some_iff.mp moved
      exact .connect starting called
    · cases moved
  | begin =>
    simp only [next] at moved
    split at moved
    · next ready =>
      obtain ⟨running, moved⟩ := Option.ite_none_left_eq_some.mp moved
      cases moved
      exact .begin ready (Bool.not_eq_true _ ▸ running)
    · cases moved
  | fetch mets =>
    simp only [next] at moved
    split at moved
    · next polling =>
      split at moved <;> cases moved
      · next returned => exact .fetched polling returned
      · exact .unfetched polling
    · cases moved
  | publish now =>
    simp only [next] at moved
    split at moved
    · next publishing =>
      obtain ⟨publisher, called, rfl⟩ := Option.map_eq_some_iff.mp moved
      exact .publish publishing called
    · cases moved
  | resume =>
    simp only [next] at moved
    split at moved <;> cases moved
    · next calling idle ended => exact .returned calling idle ended
    · next calling idle ended => exact .raised calling idle ended
  | report touched =>
    simp only [next] at moved
    split at moved
    · next published =>
      cases touched <;> cases moved
      · exact .untouched published
      · exact .touched published
    · cases moved
  | pause =>
    simp only [next] at moved
    split at moved <;> cases moved
    next pausing => exact .pause pausing
  | wake =>
    simp only [next] at moved
    split at moved
    · next sleeping =>
      obtain ⟨due, moved⟩ := Option.ite_none_right_eq_some.mp moved
      cases moved
      exact .wake sleeping due
    · cases moved
  | leave =>
    simp only [next] at moved
    split at moved
    · next ready =>
      obtain ⟨requested, moved⟩ := Option.ite_none_right_eq_some.mp moved
      cases moved
      exact .leave ready requested
    · cases moved

end Inversion
end Ingestion
end FlightHub
