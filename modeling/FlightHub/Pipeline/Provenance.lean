import FlightHub.Dashboard.Snapshot
import FlightHub.Pipeline.System

/-! Where the rows of the database come from. The consumer reads what the
publisher was called with, so every row is an entry which OpenSky answered, and
the row of an aircraft is its newest, as far as one worker takes the messages in
turn. -/
namespace FlightHub
open Python Postgres Transition

section Frames

theorem RabbitMQPublisher.Step.queue_kept {s t : State} {label : Label} (step : Step s label t)
    (own : ∀ link, label ≠ .read link) : t.queue = s.queue := by
  cases step with
  | @retry _ _ stage _ _ => cases stage <;> rfl
  | @giveUp _ _ stage _ _ _ => cases stage <;> rfl
  | @unready _ stage _ _ _ => cases stage <;> rfl
  | lost _ | fail _ _ _ =>
    unfold State.sendFailed
    split <;> rfl
  | @read link _ _ => exact absurd rfl (own link)
  | _ => rfl

theorem Ingestion.Step.queue_kept {pydantic : Pydantic} {settings : Settings} {s t : State}
    {label : Label} (step : Step pydantic settings s label t) (own : label.isRead = false) :
    t.publisher.queue = s.publisher.queue := by
  cases step with
  | @publisher label _ _ moved =>
    refine (RabbitMQPublisher.next_step moved).queue_kept ?_
    rintro link rfl
    cases own
  | connect _ moved => exact (RabbitMQPublisher.next_step moved).queue_kept (by simp)
  | publish _ moved => exact (RabbitMQPublisher.next_step moved).queue_kept (by simp)
  | _ => rfl

theorem Consumer.Step.published_kept {settings : Settings} {driver : Driver} {s t : State}
    {label : Label} (step : Step settings driver s label t) (own : label.isPublish = false) :
    t.published = s.published := by
  cases step with
  | publish _ => cases own
  | schedule _ =>
    unfold State.addCallback
    split <;> rfl
  | _ => rfl

end Frames

namespace Pipeline
variable {world : World} {s t : State} {label : Label}

/-- The consumer has been sent what the broker read. -/
def State.Joined (s : State) : Prop :=
  s.consumer.published = s.ingestion.publisher.queue.map fun frame => some frame.message

theorem State.Joined.step (joined : s.Joined) (lawful : world.mode.Lawful)
    (step : Step world s label t) : t.Joined := by
  cases step with
  | ingestion own moved =>
    rw [State.Joined, (Ingestion.next_step moved).queue_kept own]
    exact joined
  | @enqueue link now entry ingestion consumer waiting read published =>
    have enqueued : ingestion.publisher.queue = s.ingestion.publisher.queue ++ [entry.2] := by
      obtain ⟨publisher, taken, rfl⟩ := Option.map_eq_some_iff.mp read
      simp only [RabbitMQPublisher.next, waiting, Option.map_some, Option.some.injEq] at taken
      rw [← taken]
    cases published
    rw [State.Joined, enqueued, List.map_append, List.map_singleton, received,
      FlightMessage.modelValidate_modelDump lawful]
    exact congrArg (· ++ _) joined
  | consumer own moved =>
    rw [State.Joined, (Consumer.next_step moved).published_kept own]
    exact joined

theorem run_joined {ls : List Label} {clock : ℚ} (lawful : world.mode.Lawful)
    (run : Run (Steps (next world)) (initial world clock) ls s) : s.Joined :=
  run.invariant (fun joined moved => joined.step lawful (next_step moved)) rfl

/-- The frame in which a delivery came, of which the flight was made. -/
theorem State.Joined.frame (joined : s.Joined) {tag : Consumer.Tag} {flight : EnrichedFlight}
    (enriched : s.consumer.Enriched tag flight) :
    ∃ frame weather, s.ingestion.publisher.queue[s.consumer.message tag]? = some frame ∧
      EnrichedFlight.fromFlightMessage frame.message weather = .ok flight := by
  obtain ⟨message, weather, body, made⟩ := enriched
  obtain ⟨id, delivered, published⟩ := Option.bind_eq_some_iff.mp body
  obtain ⟨bound, at_tag⟩ := List.getElem?_eq_some_iff.mp delivered
  have same : s.consumer.message tag = id := by
    rw [Consumer.State.message, List.getD_eq_getElem _ _ bound, at_tag]
  rw [joined, List.getElem?_map] at published
  obtain ⟨frame, enqueued, own⟩ := Option.map_eq_some_iff.mp published
  rw [Option.some.injEq] at own
  exact ⟨frame, weather, same ▸ enqueued, own ▸ made⟩

theorem run_tracked {ls : List Label} {clock : ℚ}
    (run : Run (Steps (next world)) (initial world clock) ls s) :
    Consumer.Tracked world.driver .empty s.consumer := by
  have restricted : Run (Meeting (Steps (next world)) fun _ _ => True) (initial world clock) ls s :=
    run.mono fun moved => ⟨moved, trivial⟩
  obtain ⟨ms, own⟩ := run_consumer (fun _ _ => True) (fun _ _ _ => trivial) (fun _ _ _ => trivial)
    restricted
  exact Consumer.run_tracked own.forget

/-- The sightings of a run were taken at times which never went back. -/
def Forward (ls : List Label) : Prop :=
  ((ls.filterMap Label.toIngestion).filterMap Ingestion.Label.fetchedAt).Pairwise fun before after =>
    before.micros ≤ after.micros

instance (ls : List Label) : Decidable (Forward ls) := inferInstanceAs (Decidable (List.Pairwise _ _))

/-- With one worker in one process, whatever connections are lost and whatever
the broker enqueues twice, the row of an aircraft is the newest of its sightings
which have been stored. -/
theorem newest_shown {ls : List Label} {clock : ℚ} (lawful : world.mode.Lawful)
    (one : world.consumer.consumerWorkerThreads = 1) (forward : Forward ls)
    (run : Run (Meeting (Steps (next world)) OneProcess) (initial world clock) ls s) :
    ∀ icao24 row, s.consumer.repository.session.committed.current (.text icao24) = some row →
      ∃ commit ∈ s.consumer.repository.commits, commit.flight.icao24 = icao24 ∧
        row = commit.flight.modelDump ∧ ∀ other ∈ s.consumer.repository.commits,
          other.flight.icao24 = icao24 →
            other.flight.fetchedAt.micros ≤ commit.flight.fetchedAt.micros := by
  have sequential := run_sequential one run
  have joined := run_joined lawful run.forget
  have times := (Ingestion.run_ordered (run_ingestion run.forget)).forward forward
  intro icao24 row found
  obtain ⟨commit, committed, own, same, newest⟩ := sequential.inSequence.newest icao24 row found
  refine ⟨commit, committed, own, same, ?_⟩
  intro other stored about
  obtain ⟨frame, _, enqueued, made⟩ := joined.frame (sequential.tracked.committed commit committed)
  obtain ⟨older, _, before, read⟩ := joined.frame (sequential.tracked.committed other stored)
  rw [EnrichedFlight.fromFlightMessage_fetchedAt made, EnrichedFlight.fromFlightMessage_fetchedAt read]
  obtain ⟨first, at_first⟩ := List.getElem?_eq_some_iff.mp before
  obtain ⟨second, at_second⟩ := List.getElem?_eq_some_iff.mp enqueued
  rw [← at_first, ← at_second]
  rcases Nat.lt_or_eq_of_le (newest other stored about) with less | equal
  · exact List.pairwise_iff_getElem.mp times _ _ first second less
  · simp only [equal, le_refl]

def sampleWorld : World where
  pydantic := .strict
  mode := .sample
  driver _ := true
  ingestion := {}
  consumer := { consumerWorkerThreads := 1 }

/-- The broker reads a message, and a worker stores it without weather. -/
def storing (tag : Consumer.Tag) (now : Datetime) : List Label := .enqueue 0 now ::
  ([Consumer.Label.deliver, .start, .enrich tag (some none)] ++ Consumer.stored tag).map .consumer

def settling (tag : Consumer.Tag) : List Label :=
  [Consumer.Label.finish tag, .schedule tag, .settle 0].map .consumer

/-- Two polls see the same aircraft, and its first sighting is stored before the second poll. -/
def sightedTwice : List Label := Ingestion.fullCycle.map .ingestion ++
  storing 0 ⟨1735400013000000, by decide, by decide⟩ ++ settling 0 ++
  [Ingestion.Label.fetch (OpenSkyClient.poll OpenSkyClient.mixedEntries),
    .publish ⟨1735400036000000, by decide, by decide⟩, .publisher .send, .publisher .complete,
    .resume].map .ingestion

def storedSightings : List Label := sightedTwice ++ storing 1 ⟨1735400037000000, by decide, by decide⟩

private def inOneProcess : State → Label → Bool
  | _, .consumer .restart => false
  | _, _ => true

private theorem inOneProcess_sound (s : State) (label : Label) (checked : inOneProcess s label = true) :
    OneProcess s label := by
  rintro rfl
  cases checked

/-- The times and the aircraft of what has been stored. -/
def State.stored (s : State) : List (String × Int) :=
  s.consumer.repository.commits.map fun commit => (commit.flight.icao24, commit.flight.fetchedAt.micros)

private theorem storedSightings_run : ∃ s,
    Run (Meeting (Steps (next sampleWorld)) OneProcess) (initial sampleWorld 0) storedSightings s ∧
      s.stored = [("4ca7b3", 1735400012000000), ("4ca7b3", 1735400036000000)] := by
  have passed : (replay (guarded (next sampleWorld) inOneProcess) (initial sampleWorld 0)
      storedSightings).any (fun s =>
        s.stored = [("4ca7b3", 1735400012000000), ("4ca7b3", 1735400036000000)]) = true := by
    decide +kernel
  obtain ⟨s, run, stored⟩ := run_of_test passed
  exact ⟨s, run.of_guarded inOneProcess_sound, of_decide_eq_true stored⟩

theorem newest_shown_stored : ∃ s,
    Run (Meeting (Steps (next sampleWorld)) OneProcess) (initial sampleWorld 0) storedSightings s ∧
      s.stored = [("4ca7b3", 1735400012000000), ("4ca7b3", 1735400036000000)] ∧ ∀ icao24 row,
        s.consumer.repository.session.committed.current (.text icao24) = some row →
          ∃ commit ∈ s.consumer.repository.commits, commit.flight.icao24 = icao24 ∧
            row = commit.flight.modelDump ∧ ∀ other ∈ s.consumer.repository.commits,
              other.flight.icao24 = icao24 →
                other.flight.fetchedAt.micros ≤ commit.flight.fetchedAt.micros := by
  obtain ⟨s, run, stored⟩ := storedSightings_run
  exact ⟨s, run, stored, newest_shown JsonMode.sample_lawful rfl (by decide +kernel) run⟩

end Pipeline
end FlightHub
