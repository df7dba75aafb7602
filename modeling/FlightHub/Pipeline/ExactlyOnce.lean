import FlightHub.Ingestion.Lossless
import FlightHub.Pipeline.Provenance

/-! While no connection to the broker is lost and the consumer is not started
again, nothing is lost or doubled between the two services: each state vector
which a poll accepted has one row, or its own processing raised. No text of a poll
holds a lone surrogate here, so each state vector can be written as JSON. -/
namespace FlightHub.Pipeline
open Python Postgres Transition
variable {world : World} {s t : State} {label : Label}

/-- No connection of the publisher is lost and no process of the consumer follows another. -/
def Undisturbed (_ : State) : Label → Prop
  | .ingestion label => ∀ link, label ≠ .publisher (.lose link)
  | .enqueue _ _ => True
  | .consumer label => label ≠ .restart

/-- Nothing is on its way: no message waits for a call, a frame or a settlement. -/
structure State.Drained (s : State) : Prop where
  unhanded : s.ingestion.publisher.unhanded = []
  unread : s.ingestion.publisher.unread = []
  consuming : s.consumer.phase = .consuming
  queue : s.consumer.queue = []
  unacked : s.consumer.unacked = []

/-- The history rows of a message. -/
def State.rows (s : State) (message : Nat) : Nat :=
  s.consumer.repository.commits.countP fun commit => s.consumer.message commit.call = message

/-- Every message which the polls published is settled once: acked with exactly
one history row, or nacked for what its own processing raised. -/
structure ExactlyOnce (s : State) : Prop where
  polled : ∀ cycle ∈ s.ingestion.cycles, cycle.published = cycle.fetched.length
  settled : (s.consumer.settled.map fun entry => s.consumer.message entry.1).Perm
    (List.range s.ingestion.publisher.messages.length)
  acked : ∀ tag, (tag, true) ∈ s.consumer.settled → s.rows (s.consumer.message tag) = 1
  nacked : ∀ tag, (tag, false) ∈ s.consumer.settled → s.rows (s.consumer.message tag) ≤ 1 ∧
    ∃ failure, (tag, failure) ∈ s.consumer.raised ∧ failure ≠ .invalid ∧ s.consumer.Raised tag failure
  history : s.consumer.repository.session.committed.history =
    s.consumer.repository.commits.map fun commit => commit.flight.modelDump
  made : ∀ commit ∈ s.consumer.repository.commits, ∃ message weather,
    s.ingestion.publisher.messages[s.consumer.message commit.call]? = some message ∧
      EnrichedFlight.fromFlightMessage message weather = .ok commit.flight

theorem run_unbroken {ls : List Label} {clock : ℚ}
    (run : Run (Meeting (Steps (next world)) Undisturbed) (initial world clock) ls s) :
    ∃ ms, Run (Meeting (Steps (Ingestion.next world.pydantic world.ingestion)) Ingestion.Unbroken)
      (Ingestion.initial world.ingestion clock) ms s.ingestion := by
  refine run.project State.ingestion ?_
  intro s label t moved
  have undisturbed := moved.2
  cases next_step moved.1 with
  | ingestion _ step => exact .inr ⟨_, step, undisturbed⟩
  | enqueue _ read _ => exact .inr ⟨_, read, by simp [Ingestion.Unbroken]⟩
  | consumer _ _ => exact .inl rfl

theorem run_fresh {ls : List Label} {clock : ℚ}
    (run : Run (Meeting (Steps (next world)) Undisturbed) (initial world clock) ls s) :
    Consumer.Custody s.consumer ∧ Consumer.Fresh s.consumer := by
  obtain ⟨ms, own⟩ := run_consumer Consumer.OneProcess (fun _ label publishes restarts => by
    rw [restarts] at publishes
    cases publishes) (fun _ _ other => other) run
  exact ⟨Consumer.run_custody own.forget, Consumer.run_fresh own⟩

/-- The messages of the commits are different, so none has two rows. -/
theorem rows_le (fresh : Consumer.Fresh s.consumer)
    (tracked : Consumer.Tracked world.driver .empty s.consumer) (message : Nat) :
    s.rows message ≤ 1 := by
  have once := tracked.repository.once
  rw [← fresh.commits tracked] at once
  have counted := List.nodup_iff_count_le_one.mp once message
  rwa [List.count, List.countP_map] at counted

theorem exactly_once {ls : List Label} {clock : ℚ} (lawful : world.mode.Lawful)
    (run : Run (Meeting (Steps (next world)) Undisturbed) (initial world clock) ls s)
    (drained : s.Drained) : ExactlyOnce s := by
  obtain ⟨ms, unbroken⟩ := run_unbroken run
  obtain ⟨custody, fresh⟩ := run_fresh run
  have tracked := run_tracked run.forget
  have joined := run_joined lawful run.forget
  have lossless := Ingestion.run_lossless unbroken
  have published := Ingestion.run_published unbroken.forget
  have kept := lossless.kept published
  rw [drained.unread, drained.unhanded, List.map_nil, List.append_nil, List.append_nil] at kept
  have bodies : s.consumer.published = s.ingestion.publisher.messages.map some := by
    rw [joined, ← kept, List.map_map]
    rfl
  constructor
  · intro cycle member
    exact lossless.polled published member
  · have settled := custody.all_settled drained.queue drained.unacked
    rwa [bodies, List.length_map] at settled
  · intro tag acked
    have committed := tracked.repository.returned tag (tracked.returned tag (.inr (.inr acked)))
    obtain ⟨commit, member, rfl⟩ := List.mem_map.mp committed
    have some_row : 0 < s.rows (s.consumer.message commit.call) :=
      List.countP_pos_iff.mpr ⟨commit, member, by simp⟩
    exact Nat.le_antisymm (rows_le fresh tracked _) some_row
  · intro tag nacked
    refine ⟨rows_le fresh tracked _, ?_⟩
    obtain ⟨failure, logged⟩ := tracked.raised tag (.inr (.inr nacked))
    have raised := tracked.failures tag failure logged
    refine ⟨failure, logged, ?_, raised⟩
    rintro rfl
    obtain ⟨id, _, read⟩ := Option.bind_eq_some_iff.mp raised
    rw [bodies, List.getElem?_map] at read
    obtain ⟨_, _, valid⟩ := Option.map_eq_some_iff.mp read
    cases valid
  · rw [tracked.repository.committed, Repository.serial_history]
  · intro commit member
    obtain ⟨frame, weather, enqueued, made⟩ := joined.frame (tracked.committed commit member)
    refine ⟨frame.message, weather, ?_, made⟩
    rw [← kept, List.getElem?_map, enqueued, Option.map_some]

/-- The second of two messages is refused for the exception which its weather raises. -/
def settledSightings : List Label := sightedTwice ++ .enqueue 0 ⟨1735400038000000, by decide, by decide⟩ ::
  [Consumer.Label.deliver, .start, .enrich 1 none, .schedule 1, .settle 0].map .consumer

private def isUndisturbed : State → Label → Bool
  | _, .ingestion (.publisher (.lose _)) => false
  | _, .consumer .restart => false
  | _, _ => true

private theorem isUndisturbed_sound (s : State) (label : Label)
    (checked : isUndisturbed s label = true) : Undisturbed s label := by
  cases label with
  | ingestion label =>
    rintro link rfl
    cases checked
  | enqueue link now => trivial
  | consumer label =>
    rintro rfl
    cases checked

private def isDrained (s : State) : Bool :=
  s.ingestion.publisher.unhanded = [] ∧ s.ingestion.publisher.unread = [] ∧
    s.consumer.phase = .consuming ∧ s.consumer.queue = [] ∧ s.consumer.unacked = [] ∧
      s.consumer.settled = [(0, true), (1, false)]

theorem exactly_once_settled : ∃ s,
    Run (Meeting (Steps (next sampleWorld)) Undisturbed) (initial sampleWorld 0) settledSightings s ∧
      s.Drained ∧ s.consumer.settled = [(0, true), (1, false)] ∧ ExactlyOnce s := by
  have passed : (replay (guarded (next sampleWorld) isUndisturbed) (initial sampleWorld 0)
      settledSightings).any isDrained = true := by decide +kernel
  obtain ⟨s, run, ended⟩ := run_of_test passed
  obtain ⟨unhanded, unread, consuming, queue, unacked, settled⟩ := of_decide_eq_true ended
  have run := run.of_guarded isUndisturbed_sound
  have drained : s.Drained := ⟨unhanded, unread, consuming, queue, unacked⟩
  exact ⟨s, run, drained, settled, exactly_once JsonMode.sample_lawful run drained⟩

end FlightHub.Pipeline
