import FlightHub.Consumer.Serializability
import FlightHub.Consumer.Settlement
import Mathlib.Data.List.Sort
import Mathlib.Tactic.Linarith

/-! The current snapshot which the dashboard shows, `_fetch_current_flights` of
`dashboard/app.py`. The query bounds the age of the last upsert, so the age of
the observation is bounded as far as the upsert followed it promptly. All times
are microseconds of one clock. -/
namespace FlightHub
open Python Relational Postgres Transition

namespace Dashboard

def currentSnapshotMaxAgeSeconds : Int := 90

def maxAge : Int := currentSnapshotMaxAgeSeconds * 1000000

def updatedAt (row : Row FlightsColumn SqlValue) : Option Int :=
  match row .updatedAt with
  | .timestamptz micros => some micros
  | _ => none

/-- `updated_at > now() - interval`, which is not true of a null. -/
def recent (now : Int) (row : Row FlightsColumn SqlValue) : Bool :=
  (updatedAt row).any fun updated => now - maxAge < updated

/-- `ORDER BY updated_at DESC`, of rows which have the column. -/
def notBefore (first second : Row FlightsColumn SqlValue) : Prop :=
  (updatedAt second).getD 0 ≤ (updatedAt first).getD 0

instance : DecidableRel notBefore := fun _ _ => inferInstanceAs (Decidable (_ ≤ _))

/-- The flights at `now`; `none` when a row does not validate. -/
def fetchCurrentFlights (now : Int) (db : Database) : Option (List EnrichedFlight) :=
  ((db.flights.filter (recent now)).insertionSort notBefore).mapM fun row =>
    EnrichedFlight.modelValidate (flightsValues row)

end Dashboard

/-- Each row of `flights` is the flight of one of these commits, updated when its
transaction started. -/
def Database.Stamped (db : Database) (commits : List Repository.Commit) : Prop :=
  ∀ row ∈ db.flights, ∃ commit ∈ commits, flightsValues row = commit.flight.modelDump ∧
    row .updatedAt = .timestamptz commit.started

section Record
variable {params : Values} {now : Int} {db : Database} {row : Row FlightsColumn SqlValue}

/-- The row of an upsert holds the parameters and the time of the transaction. -/
theorem Database.placed_values (placed : Placed flightsKey
      (upsertFlightSql.update (.timestamptz now) · (upsertFlightSql.row (flightsDefaults now) params))
      (upsertFlightSql.row (flightsDefaults now) params) row) :
    flightsValues row = params ∧ row .updatedAt = .timestamptz now := by
  have proposed : flightsValues (upsertFlightSql.row (flightsDefaults now) params) = params :=
    funext (upsertFlightSql_row params now)
  rcases placed with rfl | ⟨old, conflict, rfl⟩
  · exact ⟨proposed, InsertStatement.row_unlisted (by decide) _ _⟩
  · have listed : (FlightsColumn.updatedAt, Source.now) ∈ upsertFlightSql.set := by decide
    refine ⟨?_, UpsertStatement.update_listed listed _ _ _⟩
    calc flightsValues _ = flightsValues (upsertFlightSql.row (flightsDefaults now) params) :=
          funext (upsertFlightSql_update now old _ conflict)
      _ = params := proposed

theorem Database.mem_upsert (member : row ∈ (db.upsert params now).flights) :
    row ∈ db.flights ∨ flightsValues row = params ∧ row .updatedAt = .timestamptz now :=
  (mem_place member).imp_right placed_values

theorem Database.exists_upsert (params : Values) (now : Int) (db : Database) :
    ∃ row ∈ (db.upsert params now).flights, flightsValues row = params ∧
      row .updatedAt = .timestamptz now := by
  obtain ⟨row, member, placed⟩ := exists_placed flightsKey _ _ db.flights
  exact ⟨row, member, placed_values placed⟩

end Record

theorem Repository.serial_stamped (commits : List Repository.Commit) :
    (Repository.serial .empty commits).Stamped commits := by
  induction commits using List.reverseRecOn with
  | nil => exact fun row member => absurd member List.not_mem_nil
  | append_singleton commits commit ih =>
    intro row member
    rw [Repository.serial_concat] at member
    rcases Database.mem_upsert member with kept | ⟨values, stamped⟩
    · obtain ⟨earlier, logged, rest⟩ := ih row kept
      exact ⟨earlier, List.mem_append_left _ logged, rest⟩
    · exact ⟨commit, List.mem_append_right _ (List.mem_singleton.mpr rfl), values, stamped⟩

namespace Dashboard
variable {now : Int} {db : Database} {commits : List Repository.Commit} {flight : EnrichedFlight}

theorem recent_iff {row : Row FlightsColumn SqlValue} {updated : Int}
    (stamped : row .updatedAt = .timestamptz updated) : recent now row = true ↔ now - maxAge < updated := by
  simp [recent, updatedAt, stamped]

theorem exists_mapM {α β : Type} {read : α → Option β} {items : List α}
    (reads : ∀ item ∈ items, (read item).isSome = true) :
    ∃ values, items.mapM read = some values ∧
      ∀ value, value ∈ values ↔ ∃ item ∈ items, read item = some value := by
  induction items with
  | nil => exact ⟨[], rfl, by simp⟩
  | cons item rest ih =>
    obtain ⟨first, reads⟩ := List.forall_mem_cons.mp reads
    obtain ⟨own, known⟩ := Option.isSome_iff_exists.mp first
    obtain ⟨values, mapped, members⟩ := ih reads
    refine ⟨own :: values, by simp [known, mapped], fun value => ?_⟩
    simp [members, known, eq_comm]

/-- On the tables of the consumer the query never fails, and the flights which
it returns are those of the commits whose rows are recent. -/
theorem exists_fetch (stamped : db.Stamped commits) (now : Int) :
    ∃ flights, fetchCurrentFlights now db = some flights ∧ ∀ flight, flight ∈ flights ↔
      ∃ row ∈ db.flights, recent now row = true ∧
        EnrichedFlight.modelValidate (flightsValues row) = some flight := by
  have sorted (row : Row FlightsColumn SqlValue) :
      row ∈ (db.flights.filter (recent now)).insertionSort notBefore ↔
        row ∈ db.flights ∧ recent now row = true := by
    rw [(List.perm_insertionSort notBefore _).mem_iff, List.mem_filter]
  obtain ⟨flights, fetched, members⟩ := @exists_mapM _ _
    (fun row => EnrichedFlight.modelValidate (flightsValues row))
    ((db.flights.filter (recent now)).insertionSort notBefore) (fun row member => by
      obtain ⟨commit, _, values, _⟩ := stamped row ((sorted row).mp member).1
      rw [values, EnrichedFlight.modelValidate_modelDump, Option.isSome_some])
  refine ⟨flights, fetched, fun flight => ?_⟩
  simp only [members, sorted, and_assoc]

end Dashboard

namespace Consumer
open Dashboard
variable {settings : Settings} {driver : Driver} {s t : State} {label : Label} {delay : Int}

/-- No flight which the dashboard shows, at any time, was fetched as long ago as
the age limit and `delay` together. -/
def State.SnapshotWithin (delay : Int) (s : State) : Prop :=
  ∀ now, ∃ flights, fetchCurrentFlights now s.repository.session.committed = some flights ∧
    ∀ flight ∈ flights, now - maxAge - delay < flight.fetchedAt.micros

/-- A commit takes effect only if its transaction started within `delay` of the
fetch of its message. -/
def Prompt (delay : Int) (s : State) : Label → Prop
  | .store (.commit tag reply) => reply.durable = true → ∀ flight work, ∀ started : Int,
      s.repository.calls tag = .committing flight →
        s.repository.session.status = .inTransaction work started →
          started - flight.fetchedAt.micros ≤ delay
  | _ => True

def State.Delayed (delay : Int) (s : State) : Prop :=
  ∀ commit ∈ s.repository.commits, commit.started - commit.flight.fetchedAt.micros ≤ delay

theorem Step.commit_logged {tag : Tag} {reply : CommitReply}
    (step : Step settings driver s (.store (.commit tag reply)) t) :
    ∃ flight, s.repository.calls tag = .committing flight ∧
      t.repository.commits = s.repository.logged tag flight reply := by
  cases step with
  | store _ _ stored =>
    cases Repository.next_step stored with
    | commit at_call _ => exact ⟨_, at_call, rfl⟩
    | commitFailed at_call _ => exact ⟨_, at_call, rfl⟩

/-- A step which logs a commit logs the start of the open transaction. -/
theorem Step.commit_started (step : Step settings driver s label t) :
    t.repository.commits = s.repository.commits ∨ ∃ tag reply flight work started,
      label = .store (.commit tag reply) ∧ reply.durable = true ∧
        s.repository.calls tag = .committing flight ∧
          s.repository.session.status = .inTransaction work started ∧
            t.repository.commits = s.repository.commits ++ [⟨tag, flight, started⟩] := by
  rcases step.commits with same | ⟨tag, reply, _, _, rfl, ⟨durable, work, started, opened⟩, _, _⟩
  · exact .inl same
  · obtain ⟨flight, at_call, logged⟩ := step.commit_logged
    refine .inr ⟨tag, reply, flight, work, started, rfl, durable, at_call, opened, ?_⟩
    simpa only [Repository.State.logged, opened, durable, if_true] using logged

theorem State.Delayed.step (delayed : s.Delayed delay) (step : Step settings driver s label t)
    (prompt : Prompt delay s label) : t.Delayed delay := by
  intro commit member
  rcases step.commit_started with same | ⟨tag, reply, flight, work, started, rfl, durable, at_call, opened, grown⟩
  · exact delayed commit (same ▸ member)
  · rw [grown] at member
    rcases List.mem_append.mp member with before | last
    · exact delayed commit before
    · rw [List.mem_singleton.mp last]
      exact prompt durable flight work started at_call opened

theorem Tracked.stamped (tracked : Tracked driver .empty s) :
    s.repository.session.committed.Stamped s.repository.commits := by
  rw [tracked.repository.committed]
  exact Repository.serial_stamped _

theorem State.Delayed.snapshot (delayed : s.Delayed delay) (tracked : Tracked driver .empty s) :
    s.SnapshotWithin delay := by
  intro now
  have stamped := tracked.stamped
  obtain ⟨flights, fetched, members⟩ := exists_fetch stamped now
  refine ⟨flights, fetched, fun flight member => ?_⟩
  obtain ⟨row, stored, shown, valid⟩ := (members flight).mp member
  obtain ⟨commit, logged, values, updated⟩ := stamped row stored
  rw [values, EnrichedFlight.modelValidate_modelDump] at valid
  obtain rfl := Option.some.inj valid
  have young := (recent_iff updated).mp shown
  have bound := delayed commit logged
  linarith

/-- The row of a late commit is shown until its age is the limit and the delay. -/
theorem Tracked.prompt_of_snapshot (tracked : Tracked driver .empty t)
    (step : Step settings driver s label t) (snapshot : t.SnapshotWithin delay) : Prompt delay s label := by
  unfold Prompt
  split
  · next tag reply =>
    intro durable flight work started at_call opened
    obtain ⟨own, committing, logged⟩ := step.commit_logged
    obtain rfl := Repository.CallState.committing.inj (at_call.symm.trans committing)
    simp only [Repository.State.logged, opened, durable, if_true] at logged
    have committed := tracked.repository.committed
    rw [logged, Repository.serial_concat] at committed
    obtain ⟨row, stored, values, updated⟩ := Database.exists_upsert flight.modelDump started
      (Repository.serial .empty s.repository.commits)
    obtain ⟨flights, fetched, members⟩ := exists_fetch tracked.stamped (started + maxAge - 1)
    obtain ⟨_, same, young⟩ := snapshot (started + maxAge - 1)
    obtain rfl := Option.some.inj (fetched.symm.trans same)
    have shown := (members flight).mpr ⟨row, committed ▸ stored, ?_, ?_⟩
    · have age := young flight shown
      omega
    · rw [recent_iff updated]
      omega
    · rw [values, EnrichedFlight.modelValidate_modelDump]
  · trivial

theorem run_delayed {ls : List Label}
    (run : Run (Meeting (Steps (next settings driver)) (Prompt delay)) (initial .empty) ls s) :
    s.Delayed delay := by
  refine run.invariant (fun delayed moved => delayed.step (next_step moved.1) moved.2) ?_
  exact fun commit member => absurd member List.not_mem_nil

/-- While every commit is prompt, no flight is shown whose age is the limit and
the delay; a further step keeps it so exactly when it is prompt. -/
theorem snapshot_within {ls : List Label}
    (run : Run (Meeting (Steps (next settings driver)) (Prompt delay)) (initial .empty) ls s) :
    s.SnapshotWithin delay ∧ ∀ label t, next settings driver s label = some t →
      (t.SnapshotWithin delay ↔ Prompt delay s label) := by
  have tracked := run_tracked run.forget
  have delayed := run_delayed run
  refine ⟨delayed.snapshot tracked, fun label t moved => ?_⟩
  have step := next_step moved
  have later := tracked.step step
  exact ⟨later.prompt_of_snapshot step, fun prompt => (delayed.step step prompt).snapshot later⟩

/-- Every flight which the dashboard shows, at any time, was fetched within the age limit. -/
def State.SnapshotCurrent (s : State) : Prop :=
  ∀ now, ∃ flights, fetchCurrentFlights now s.repository.session.committed = some flights ∧
    ∀ flight ∈ flights, now - maxAge < flight.fetchedAt.micros

theorem snapshotCurrent_iff : s.SnapshotCurrent ↔ s.SnapshotWithin 0 := by
  simp only [State.SnapshotCurrent, State.SnapshotWithin, Int.sub_zero]

/-- The snapshot is current while no message is stored after it was fetched; a
further step keeps it so exactly when it does not do that either. -/
theorem snapshot_fetched_recently {ls : List Label}
    (run : Run (Meeting (Steps (next settings driver)) (Prompt 0)) (initial .empty) ls s) :
    s.SnapshotCurrent ∧ ∀ label t, next settings driver s label = some t →
      (t.SnapshotCurrent ↔ Prompt 0 s label) := by
  simpa only [snapshotCurrent_iff] using snapshot_within run

private def promptly (s : State) : Label → Bool
  | .store (.commit tag _) =>
    match s.repository.calls tag, s.repository.session.status with
    | .committing flight, .inTransaction _ started => started - flight.fetchedAt.micros ≤ 0
    | _, _ => true
  | _ => true

private theorem promptly_sound (s : State) (label : Label) (checked : promptly s label = true) :
    Prompt 0 s label := by
  unfold Prompt
  split
  · intro durable flight work started at_call opened
    simp only [promptly, at_call, opened] at checked
    exact of_decide_eq_true checked
  · trivial

/-- The worker stores the report at `clock`. -/
def storedAt (clock : Int) : List Label := [
  .publish (report "738065" 0), .deliver, .start, .enrich 0 (some none), .store (.acquire 0),
  .store (.upsert 0 .accepted clock), .store (.append 0 .accepted clock),
  .store (.commit 0 .accepted)]

private def shows (now : Int) (s : State) : Bool :=
  (fetchCurrentFlights now s.repository.session.committed).any fun flights =>
    flights.any fun flight => flight.fetchedAt = (report "738065" 0).fetchedAt

/-- The row counts as touched from the start of its transaction, so whatever time
the message has waited by then comes on top of the age limit: the report must be
stored at the very time of its fetch, by the server's clock. -/
theorem snapshot_fetched_recently_prompt : ∃ s,
    Run (Meeting (Steps (next {} fun _ => true)) (Prompt 0)) (initial .empty)
      (storedAt 1735400010000000) s ∧ shows 1735400090000000 s = true ∧ s.SnapshotCurrent ∧
      ∀ label t, next {} (fun _ => true) s label = some t →
        (t.SnapshotCurrent ↔ Prompt 0 s label) := by
  have passed : (replay (guarded (next {} fun _ => true) promptly) (initial .empty)
      (storedAt 1735400010000000)).any (shows 1735400090000000) = true := by decide +kernel
  obtain ⟨s, run, shown⟩ := run_of_test passed
  have run := run.of_guarded promptly_sound
  exact ⟨s, run, shown, snapshot_fetched_recently run⟩

/-- A report which waited 1000 s in the queue is shown as current. -/
theorem backlog_shown_as_current :
    ¬ ∀ settings driver ls s, Run (Steps (next settings driver)) (initial .empty) ls s →
      s.SnapshotCurrent := by
  intro current
  have passed : (replay (next {} fun _ => true) (initial .empty)
      (storedAt 1735401010000000)).any (shows 1735401011000000) = true := by decide +kernel
  obtain ⟨s, run, shown⟩ := run_of_test passed
  obtain ⟨flights, fetched, young⟩ := current {} _ _ s run 1735401011000000
  simp only [shows, fetched, Option.any_some] at shown
  obtain ⟨flight, member, same⟩ := List.any_eq_true.mp shown
  have age := young flight member
  rw [of_decide_eq_true same] at age
  exact absurd age (by decide)

end Consumer
end FlightHub
