import FlightHub.Common.Wire
import FlightHub.Consumer.SingleWorker
import FlightHub.Ingestion.Fifo

/-! The two services with the queue between them. When the broker reads a frame
of the publisher it enqueues the body for the consumer; every other step is that
of one service alone. -/
namespace FlightHub
open Python Postgres Transition

/-- The broker takes a frame from a connection of the publisher. -/
def Ingestion.Label.isRead : Ingestion.Label → Bool
  | .publisher (.read _) => true
  | _ => false

def Consumer.Label.isPublish : Consumer.Label → Bool
  | .publish _ => true
  | _ => false

namespace Pipeline

/-- The settings of the services and what is not part of the repository. -/
structure World where
  pydantic : Pydantic
  mode : JsonMode
  driver : Driver
  ingestion : Ingestion.Settings
  consumer : Consumer.Settings

structure State where
  ingestion : Ingestion.State
  consumer : Consumer.State

def initial (world : World) (clock : ℚ) : State :=
  ⟨Ingestion.initial world.ingestion clock, Consumer.initial .empty⟩

/-- `now` is the time at which the consumer will read the body. -/
inductive Label where
  | ingestion (label : Ingestion.Label)
  | enqueue (link : Nat) (now : Datetime)
  | consumer (label : Consumer.Label)

section Steps
variable (world : World)

def ingestionNext : Ingestion.State → Ingestion.Label → Option Ingestion.State :=
  Ingestion.next world.pydantic world.ingestion

def consumerNext : Consumer.State → Consumer.Label → Option Consumer.State :=
  Consumer.next world.consumer world.driver

/-- What the consumer makes of a message, once the publisher has written it. -/
def received (now : Datetime) (message : FlightMessage) : Consumer.Body :=
  FlightMessage.modelValidate world.mode now (message.modelDump world.mode)

def next (s : State) : Label → Option State
  | .ingestion label =>
    if label.isRead then none
    else (ingestionNext world s.ingestion label).map fun ingestion => { s with ingestion }
  | .enqueue link now => do
    let entry ← s.ingestion.publisher.unread.find? fun entry => entry.1 = link
    let ingestion ← ingestionNext world s.ingestion (.publisher (.read link))
    let consumer ← consumerNext world s.consumer (.publish (received world now entry.2.message))
    some { ingestion, consumer }
  | .consumer label =>
    if label.isPublish then none
    else (consumerNext world s.consumer label).map fun consumer => { s with consumer }

end Steps

variable {world : World} {s t : State} {label : Label}

inductive Step (world : World) (s : State) : Label → State → Prop where
  | ingestion {label : Ingestion.Label} {ingestion : Ingestion.State} (own : label.isRead = false)
      (moved : ingestionNext world s.ingestion label = some ingestion) :
      Step world s (.ingestion label) { s with ingestion }
  | enqueue {link : Nat} {now : Datetime} {entry : Nat × RabbitMQPublisher.Frame}
      {ingestion : Ingestion.State} {consumer : Consumer.State}
      (waiting : s.ingestion.publisher.unread.find? (fun entry => entry.1 = link) = some entry)
      (read : ingestionNext world s.ingestion (.publisher (.read link)) = some ingestion)
      (published : consumerNext world s.consumer
        (.publish (received world now entry.2.message)) = some consumer) :
      Step world s (.enqueue link now) { ingestion, consumer }
  | consumer {label : Consumer.Label} {consumer : Consumer.State} (own : label.isPublish = false)
      (moved : consumerNext world s.consumer label = some consumer) :
      Step world s (.consumer label) { s with consumer }

theorem next_step (moved : next world s label = some t) : Step world s label t := by
  cases label with
  | ingestion label =>
    obtain ⟨own, moved⟩ := Option.ite_none_left_eq_some.mp moved
    obtain ⟨ingestion, called, rfl⟩ := Option.map_eq_some_iff.mp moved
    exact .ingestion (Bool.not_eq_true _ ▸ own) called
  | enqueue link now =>
    obtain ⟨entry, waiting, moved⟩ := Option.bind_eq_some_iff.mp moved
    obtain ⟨ingestion, read, moved⟩ := Option.bind_eq_some_iff.mp moved
    obtain ⟨consumer, published, moved⟩ := Option.bind_eq_some_iff.mp moved
    cases moved
    exact .enqueue waiting read published
  | consumer label =>
    obtain ⟨own, moved⟩ := Option.ite_none_left_eq_some.mp moved
    obtain ⟨consumer, called, rfl⟩ := Option.map_eq_some_iff.mp moved
    exact .consumer (Bool.not_eq_true _ ▸ own) called

/-- What the ingestion service does in a step. -/
def Label.toIngestion : Label → Option Ingestion.Label
  | .ingestion label => some label
  | .enqueue link _ => some (.publisher (.read link))
  | .consumer _ => none

theorem Step.ingestion_moves (step : Step world s label t) :
    match label.toIngestion with
    | none => t.ingestion = s.ingestion
    | some own => ingestionNext world s.ingestion own = some t.ingestion := by
  cases step with
  | ingestion _ moved => exact moved
  | enqueue _ read _ => exact read
  | consumer _ _ => rfl

/-- What the consumer does in a step. -/
theorem Step.consumer_moves (step : Step world s label t) :
    t.consumer = s.consumer ∨ ∃ own, consumerNext world s.consumer own = some t.consumer ∧
      (own.isPublish = false → label = .consumer own) := by
  cases step with
  | ingestion _ _ => exact .inl rfl
  | enqueue _ _ published => exact .inr ⟨_, published, by simp [Consumer.Label.isPublish]⟩
  | consumer _ moved => exact .inr ⟨_, moved, fun _ => rfl⟩

theorem run_ingestion {ls : List Label} {clock : ℚ}
    (run : Run (Steps (next world)) (initial world clock) ls s) :
    Run (Steps (Ingestion.next world.pydantic world.ingestion))
      (Ingestion.initial world.ingestion clock) (ls.filterMap Label.toIngestion) s.ingestion := by
  induction run with
  | refl => exact .refl
  | @next _ _ label _ _ moved ih =>
    have step := (next_step moved).ingestion_moves
    rw [List.filterMap_append]
    cases own : label.toIngestion with
    | none =>
      simp only [own] at step
      rw [List.filterMap_cons_none own, List.filterMap_nil, List.append_nil, step]
      exact ih
    | some own_label =>
      simp only [own] at step
      rw [List.filterMap_cons_some own, List.filterMap_nil]
      exact ih.next step

/-- A condition on the consumer's labels which publishing meets. -/
theorem run_consumer (condition : Consumer.State → Consumer.Label → Prop)
    {restricted : State → Label → Prop}
    (publishes : ∀ s label, label.isPublish = true → condition s label)
    (meets : ∀ s label, restricted s (.consumer label) → condition s.consumer label)
    {ls : List Label} {clock : ℚ}
    (run : Run (Meeting (Steps (next world)) restricted) (initial world clock) ls s) :
    ∃ ms, Run (Meeting (Steps (Consumer.next world.consumer world.driver)) condition)
      (Consumer.initial .empty) ms s.consumer := by
  refine run.project State.consumer ?_
  intro s label t moved
  rcases (next_step moved.1).consumer_moves with same | ⟨own, step, named⟩
  · exact .inl same
  · refine .inr ⟨own, step, ?_⟩
    cases kind : own.isPublish with
    | true => exact publishes _ own kind
    | false =>
      have restricted := moved.2
      rw [named kind] at restricted
      exact meets s own restricted

/-- The steps of one process of the consumer. -/
def OneProcess (_ : State) (label : Label) : Prop := label ≠ .consumer .restart

theorem run_sequential {ls : List Label} {clock : ℚ} (one : world.consumer.consumerWorkerThreads = 1)
    (run : Run (Meeting (Steps (next world)) OneProcess) (initial world clock) ls s) :
    Consumer.Sequential world.driver .empty s.consumer := by
  obtain ⟨ms, own⟩ := run_consumer Consumer.OneProcess (fun _ label publishes restarts => by
    rw [restarts] at publishes
    cases publishes) (fun _ label other restarts => other (by rw [restarts])) run
  exact Consumer.run_sequential one own

end Pipeline
end FlightHub
