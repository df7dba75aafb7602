import FlightHub.Consumer.Repository
import Mathlib.Data.List.AList

/-! The consumer service, `consumer/main.py`, together with its queue: the IO
thread, the thread pool, the repository and the broker take turns in any order.
A message is named by its place in the order of publication and a delivery by
its place in the order of deliveries, over all connections. -/
namespace FlightHub.Consumer
open Postgres Transition

abbrev MessageId := Nat
abbrev Tag := Nat

/-- A message body, as `FlightMessage.model_validate_json` reads it. -/
abbrev Body := Option FlightMessage

structure Settings where
  consumerPrefetchCount : Nat := 40
  consumerWorkerThreads : Nat := 8

/-- The broker sends no more than the prefetch count ahead of the settlements;
a count of zero is no limit. -/
def Settings.admits (settings : Settings) (unacked : Nat) : Bool :=
  settings.consumerPrefetchCount = 0 || unacked < settings.consumerPrefetchCount

inductive Work where
  | received
  | storing
  | finished (ok : Bool)
deriving DecidableEq

inductive Failure where
  | invalid
  | weather
  | normalise (exception : Python.Exception)
  | store
deriving DecidableEq

/-- Where the IO thread stands: in `start_consuming`, in it after the shutdown
signal, in the `finally` block, or out of `run`. -/
inductive Phase where
  | consuming
  | stopping
  | draining (connected : Bool)
  | closed
deriving DecidableEq

def Phase.connected : Phase → Bool
  | .consuming | .stopping => true
  | .draining connected => connected
  | .closed => false

/-- Callbacks run only while the IO thread is inside its loop. -/
def Phase.inLoop : Phase → Bool
  | .consuming | .stopping => true
  | _ => false

/-- `settled` logs the settlement commands with their `ok`, `abandoned` the
deliveries whose settlement was lost with a connection, and `raised` the
exceptions which `_process_message` caught. -/
structure State where
  published : List Body
  queue : List MessageId
  deliveries : List MessageId
  unacked : List Tag
  executor : List Tag
  running : AList fun _ : Tag => Work
  callbacks : List (Tag × Bool)
  settled : List (Tag × Bool)
  abandoned : List Tag
  raised : List (Tag × Failure)
  repository : Repository.State
  phase : Phase
  firstTag : Tag

/-- `run` has connected and entered `start_consuming`; nothing is published. -/
def initial (tables : Database) : State where
  published := []
  queue := []
  deliveries := []
  unacked := []
  executor := []
  running := ∅
  callbacks := []
  settled := []
  abandoned := []
  raised := []
  repository := Repository.initial tables
  phase := .consuming
  firstTag := 0

inductive Label where
  | publish (body : Body)
  | deliver
  | start
  | enrich (tag : Tag) (lookup : Option (Option WeatherReading))
  | store (action : Repository.Action)
  | finish (tag : Tag)
  | schedule (tag : Tag)
  | settle (position : Nat)
  | signal
  | leaveLoop
  | close
  | disconnect
  | crash
  | restart

inductive Actor where
  | producer
  | ioThread
  | worker
  | environment
deriving DecidableEq

def Label.actor : Label → Actor
  | .publish _ => .producer
  | .deliver | .settle _ | .signal | .leaveLoop | .close | .restart => .ioThread
  | .start | .enrich _ _ | .finish _ | .schedule _ => .worker
  | .store .lose => .environment
  | .store _ => .worker
  | .disconnect | .crash => .environment

namespace State

def message (s : State) (tag : Tag) : MessageId := s.deliveries.getD tag 0

def body (s : State) (tag : Tag) : Option Body := (s.deliveries[tag]?).bind (s.published[·]?)

def onMessage (s : State) (id : MessageId) : State :=
  { s with
    deliveries := s.deliveries ++ [id]
    unacked := s.unacked ++ [s.deliveries.length]
    executor := s.executor ++ [s.deliveries.length] }

/-- `_ack_or_nack`; without requeue a nack removes the message like an ack. -/
def ackOrNack (s : State) (tag : Tag) (ok : Bool) : State :=
  { s with settled := s.settled ++ [(tag, ok)], unacked := s.unacked.erase tag }

def work (s : State) (tag : Tag) (work : Work) : State :=
  { s with running := s.running.insert tag work }

def fail (s : State) (tag : Tag) (failure : Failure) : State :=
  { s.work tag (.finished false) with raised := s.raised ++ [(tag, failure)] }

/-- `connection.add_callback_threadsafe`, which raises once the connection is lost. -/
def addCallback (s : State) (tag : Tag) (ok : Bool) : State :=
  if s.phase.connected then { s with callbacks := s.callbacks ++ [(tag, ok)] }
  else { s with abandoned := s.abandoned ++ [tag] }

/-- The broker returns the unsettled deliveries to the queue, and the callbacks
which have not run never will. -/
def disconnected (s : State) : State :=
  { s with
    queue := s.unacked.map s.message ++ s.queue
    unacked := []
    callbacks := []
    abandoned := s.abandoned ++ s.callbacks.map Prod.fst
    phase := .draining false }

def exit (s : State) : State :=
  let s := s.disconnected
  { s with
    executor := []
    running := ∅
    abandoned := s.abandoned ++ s.executor ++ s.running.keys
    repository := s.repository.exit
    phase := .closed }

end State

section Steps
variable (settings : Settings) (driver : Driver)

/-- The `try` statement of `_process_message` up to the call of `upsert_flight`.
`lookup` is the outcome of `get_weather`, `none` when it raises. -/
def processMessage (s : State) (tag : Tag) (lookup : Option (Option WeatherReading)) :
    Option State :=
  match s.body tag, lookup with
  | none, _ => none
  | some none, _ => some (s.fail tag .invalid)
  | some (some _), none => some (s.fail tag .weather)
  | some (some message), some weather =>
    match EnrichedFlight.fromFlightMessage message weather with
    | .error exception => some (s.fail tag (.normalise exception))
    | .ok flight =>
      (Repository.next driver s.repository (.call tag flight)).map fun repository =>
        { s.work tag .storing with repository }

def next (s : State) : Label → Option State
  | .publish body =>
    some { s with published := s.published ++ [body], queue := s.queue ++ [s.published.length] }
  | .deliver =>
    match s.queue, s.phase with
    | id :: queue, .consuming =>
      if settings.admits s.unacked.length then some ({ s with queue }.onMessage id) else none
    | _, _ => none
  | .start =>
    match s.executor, s.phase with
    | _, .closed => none
    | tag :: executor, _ =>
      if s.running.keys.length < settings.consumerWorkerThreads then
        some ({ s with executor }.work tag .received)
      else none
    | [], _ => none
  | .enrich tag lookup =>
    match s.running.lookup tag with
    | some .received => processMessage driver s tag lookup
    | _ => none
  | .store (.call _ _) => none
  | .store action =>
    if s.phase = .closed then none
    else (Repository.next driver s.repository action).map fun repository => { s with repository }
  | .finish tag =>
    match s.running.lookup tag, s.repository.calls tag with
    | some .storing, .returned => some (s.work tag (.finished true))
    | some .storing, .raised => some (s.fail tag .store)
    | _, _ => none
  | .schedule tag =>
    match s.running.lookup tag with
    | some (.finished ok) => some ({ s with running := s.running.erase tag }.addCallback tag ok)
    | _ => none
  | .settle position =>
    match s.callbacks[position]? with
    | some (tag, ok) =>
      if s.phase.inLoop then
        some ({ s with callbacks := s.callbacks.eraseIdx position }.ackOrNack tag ok)
      else none
    | none => none
  | .signal =>
    match s.phase with
    | .consuming => some { s with phase := .stopping }
    | _ => none
  | .leaveLoop =>
    match s.phase with
    | .stopping => some { s with phase := .draining true }
    | _ => none
  | .close =>
    match s.phase with
    | .draining _ => if s.executor = [] ∧ s.running.keys = [] then some s.exit else none
    | _ => none
  | .disconnect => if s.phase.connected then some s.disconnected else none
  | .crash => if s.phase = .closed then none else some s.exit
  | .restart =>
    match s.phase with
    | .closed =>
      some { s with
        phase := .consuming
        firstTag := s.deliveries.length
        repository := s.repository.reconnect }
    | _ => none

end Steps

/-- What `tag`'s own processing raised. The weather lookup is outside the state:
that it raised is in the label of the step. -/
def State.Raised (s : State) (tag : Tag) : Failure → Prop
  | .invalid => s.body tag = some none
  | .weather => ∃ message, s.body tag = some (some message)
  | .normalise exception => ∃ message weather, s.body tag = some (some message) ∧
      EnrichedFlight.fromFlightMessage message weather = .error exception
  | .store => s.repository.calls tag = .raised

def State.Enriched (s : State) (tag : Tag) (flight : EnrichedFlight) : Prop :=
  ∃ message weather, s.body tag = some (some message) ∧
    EnrichedFlight.fromFlightMessage message weather = .ok flight

section Inversion
variable {settings : Settings} {driver : Driver} {s t : State}

/-- The steps of the service, one constructor for each branch. -/
inductive Step (settings : Settings) (driver : Driver) (s : State) : Label → State → Prop where
  | publish (body : Body) : Step settings driver s (.publish body)
      { s with published := s.published ++ [body], queue := s.queue ++ [s.published.length] }
  | deliver {id : MessageId} {queue : List MessageId} (next_up : s.queue = id :: queue)
      (consuming : s.phase = .consuming) (admitted : settings.admits s.unacked.length) :
      Step settings driver s .deliver ({ s with queue }.onMessage id)
  | start {tag : Tag} {executor : List Tag} (first : s.executor = tag :: executor) (alive : s.phase ≠ .closed)
      (idle : s.running.keys.length < settings.consumerWorkerThreads) :
      Step settings driver s .start ({ s with executor }.work tag .received)
  | failed {tag : Tag} {lookup : Option (Option WeatherReading)} {failure : Failure}
      (found : s.running.lookup tag = some .received)
      (raised : s.Raised tag failure) (unanswered : failure = .weather → lookup = none) :
      Step settings driver s (.enrich tag lookup) (s.fail tag failure)
  | enriched {tag : Tag} {lookup : Option (Option WeatherReading)} {flight : EnrichedFlight}
      {repository : Repository.State} (found : s.running.lookup tag = some .received)
      (enriched : s.Enriched tag flight)
      (called : Repository.next driver s.repository (.call tag flight) = some repository) :
      Step settings driver s (.enrich tag lookup) { s.work tag .storing with repository }
  | store {action : Repository.Action} {repository : Repository.State}
      (alive : s.phase ≠ .closed) (own : ∀ tag flight, action ≠ .call tag flight)
      (stored : Repository.next driver s.repository action = some repository) :
      Step settings driver s (.store action) { s with repository }
  | returned (found : s.running.lookup tag = some .storing)
      (returned : s.repository.calls tag = .returned) :
      Step settings driver s (.finish tag) (s.work tag (.finished true))
  | raised (found : s.running.lookup tag = some .storing)
      (raised : s.Raised tag .store) : Step settings driver s (.finish tag) (s.fail tag .store)
  | schedule (found : s.running.lookup tag = some (.finished ok)) :
      Step settings driver s (.schedule tag)
        ({ s with running := s.running.erase tag }.addCallback tag ok)
  | settle (pending : s.callbacks[position]? = some (tag, ok)) (looping : s.phase.inLoop = true) :
      Step settings driver s (.settle position)
        ({ s with callbacks := s.callbacks.eraseIdx position }.ackOrNack tag ok)
  | signal (consuming : s.phase = .consuming) :
      Step settings driver s .signal { s with phase := .stopping }
  | leaveLoop (stopping : s.phase = .stopping) :
      Step settings driver s .leaveLoop { s with phase := .draining true }
  | close (draining : s.phase = .draining connected) (queued : s.executor = [])
      (working : s.running.keys = []) : Step settings driver s .close s.exit
  | disconnect (connected : s.phase.connected = true) :
      Step settings driver s .disconnect s.disconnected
  | crash (alive : s.phase ≠ .closed) : Step settings driver s .crash s.exit
  | restart (closed : s.phase = .closed) : Step settings driver s .restart
      { s with
        phase := .consuming
        firstTag := s.deliveries.length
        repository := s.repository.reconnect }

theorem processMessage_step {tag : Tag} {lookup : Option (Option WeatherReading)}
    (found : s.running.lookup tag = some .received)
    (moved : processMessage driver s tag lookup = some t) :
    Step settings driver s (.enrich tag lookup) t := by
  unfold processMessage at moved
  split at moved
  · cases moved
  · next invalid =>
    cases moved
    exact .failed found invalid nofun
  · next message body =>
    cases moved
    exact .failed found ⟨message, body⟩ fun _ => rfl
  · next message weather body =>
    split at moved
    · next exception failed =>
      cases moved
      exact .failed found ⟨message, weather, body, failed⟩ nofun
    · next flight enriched =>
      obtain ⟨repository, called, rfl⟩ := Option.map_eq_some_iff.mp moved
      exact .enriched found ⟨message, weather, body, enriched⟩ called

theorem next_step {label : Label} (moved : next settings driver s label = some t) :
    Step settings driver s label t := by
  cases label with
  | publish body =>
    cases moved
    exact .publish body
  | deliver =>
    simp only [next] at moved
    split at moved
    · next next_up consuming =>
      split at moved <;> cases moved
      next admitted => exact .deliver next_up consuming admitted
    · cases moved
  | start =>
    simp only [next] at moved
    split at moved
    · cases moved
    · next first alive =>
      split at moved <;> cases moved
      next idle => exact .start first alive idle
    · cases moved
  | enrich tag lookup =>
    simp only [next] at moved
    split at moved
    · next found => exact processMessage_step found moved
    · cases moved
  | store action =>
    cases action with
    | call tag flight => cases moved
    | _ =>
      simp only [next] at moved
      split at moved
      · cases moved
      · next alive =>
        obtain ⟨repository, stored, rfl⟩ := Option.map_eq_some_iff.mp moved
        exact .store alive (by simp) stored
  | finish tag =>
    simp only [next] at moved
    split at moved <;> cases moved
    · next found returned => exact .returned found returned
    · next found raised => exact .raised found raised
  | schedule tag =>
    simp only [next] at moved
    split at moved <;> cases moved
    next ok found => exact .schedule found
  | settle position =>
    simp only [next] at moved
    split at moved
    · next pending =>
      split at moved <;> cases moved
      next looping => exact .settle pending looping
    · cases moved
  | signal =>
    simp only [next] at moved
    split at moved <;> cases moved
    next consuming => exact .signal consuming
  | leaveLoop =>
    simp only [next] at moved
    split at moved <;> cases moved
    next stopping => exact .leaveLoop stopping
  | close =>
    simp only [next] at moved
    split at moved
    · next draining =>
      split at moved <;> cases moved
      next empty => exact .close draining empty.1 empty.2
    · cases moved
  | disconnect =>
    simp only [next] at moved
    split at moved <;> cases moved
    next connected => exact .disconnect connected
  | crash =>
    simp only [next] at moved
    split at moved <;> cases moved
    next alive => exact .crash alive
  | restart =>
    simp only [next] at moved
    split at moved <;> cases moved
    next closed => exact .restart closed

end Inversion
end FlightHub.Consumer
