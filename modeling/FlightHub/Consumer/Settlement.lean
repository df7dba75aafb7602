import FlightHub.Consumer.Custody
import FlightHub.Consumer.Serializability

/-! The settlement protocol. The records of the service only grow, every outcome
is that of the delivery's own processing, and so every delivery is settled once,
by the IO thread, acked after its commit or nacked after an exception. -/
namespace FlightHub.Consumer
open Postgres Transition
variable {settings : Settings} {driver : Driver} {tables : Database} {s t : State} {label : Label}

/-- The records of `s` are the beginning of those of `t`. -/
structure Extends (s t : State) : Prop where
  published : s.published <+: t.published
  deliveries : s.deliveries <+: t.deliveries
  settled : s.settled <+: t.settled
  raised : s.raised <+: t.raised

theorem Extends.body (extended : Extends s t) {tag : Tag} {body : Body}
    (found : s.body tag = some body) : t.body tag = some body := by
  obtain ⟨id, delivered, published⟩ := Option.bind_eq_some_iff.mp found
  obtain ⟨deliveries, later⟩ := extended.deliveries
  obtain ⟨bodies, newer⟩ := extended.published
  have delivered_bound := (List.getElem?_eq_some_iff.mp delivered).1
  have published_bound := (List.getElem?_eq_some_iff.mp published).1
  rw [State.body, ← later, List.getElem?_append_left delivered_bound, delivered,
    Option.bind_some, ← newer, List.getElem?_append_left published_bound, published]

theorem Extends.enriched (extended : Extends s t) {tag : Tag} {flight : EnrichedFlight}
    (enriched : s.Enriched tag flight) : t.Enriched tag flight := by
  obtain ⟨message, weather, body, made⟩ := enriched
  exact ⟨message, weather, extended.body body, made⟩

namespace Step

theorem grows (step : Step settings driver s label t) : Extends s t := by
  cases step with
  | schedule found =>
    unfold State.addCallback
    split <;> exact ⟨List.prefix_rfl, List.prefix_rfl, List.prefix_rfl, List.prefix_rfl⟩
  | _ =>
    refine ⟨?_, ?_, ?_, ?_⟩ <;> first | exact List.prefix_rfl | exact List.prefix_append _ _

/-- The repository takes a step of its own, ends with the process or is
replaced by that of a new process. -/
theorem repository (step : Step settings driver s label t) :
    t.repository = s.repository ∨ t.repository = s.repository.exit ∨
      t.repository = s.repository.reconnect ∨
      ∃ action, Repository.next driver s.repository action = some t.repository ∧
        ∀ tag flight, action = .call tag flight → s.Enriched tag flight := by
  cases step with
  | enriched found enriched called =>
    refine .inr (.inr (.inr ⟨_, called, ?_⟩))
    rintro tag flight ⟨⟩
    exact enriched
  | store alive own stored =>
    exact .inr (.inr (.inr ⟨_, stored, fun tag flight same => absurd same (own tag flight)⟩))
  | schedule found =>
    unfold State.addCallback
    split <;> exact .inl rfl
  | close _ _ _ => exact .inr (.inl rfl)
  | crash _ => exact .inr (.inl rfl)
  | restart _ => exact .inr (.inr (.inl rfl))
  | _ => exact .inl rfl

theorem commits (step : Step settings driver s label t) :
    t.repository.commits = s.repository.commits ∨ ∃ tag reply flight started,
      label = .store (.commit tag reply) ∧ s.repository.Effective reply ∧
        (s.repository.calls tag).flight = some flight ∧
          t.repository.commits = s.repository.commits ++ [⟨tag, flight, started⟩] := by
  cases step with
  | enriched found enriched called =>
    rcases (Repository.next_step called).commits with same | ⟨_, _, _, _, other, _⟩
    · exact .inl same
    · cases other
  | @store action repository alive own stored =>
    rcases (Repository.next_step stored).commits with
      same | ⟨tag, reply, flight, started, rfl, effective, known, grown⟩
    · exact .inl same
    · exact .inr ⟨tag, reply, flight, started, rfl, effective, known, grown⟩
  | schedule found =>
    unfold State.addCallback
    split <;> exact .inl rfl
  | _ => exact .inl rfl

theorem commits_effective {tag : Tag} {reply : CommitReply}
    (step : Step settings driver s (.store (.commit tag reply)) t)
    (effective : s.repository.Effective reply) :
    ∃ flight started, (s.repository.calls tag).flight = some flight ∧
      t.repository.commits = s.repository.commits ++ [⟨tag, flight, started⟩] := by
  cases step with
  | store alive own stored => exact (Repository.next_step stored).commits_effective effective

theorem call_kept (step : Step settings driver s label t) {tag : Tag} {call : Repository.CallState}
    (at_call : s.repository.calls tag = call) (ended : call = .returned ∨ call = .raised) :
    t.repository.calls tag = call := by
  rcases step.repository with same | same | same | ⟨action, moved, _⟩
  · rw [same, at_call]
  · rcases ended with rfl | rfl <;>
      simp only [same, Repository.State.exit, at_call, Repository.CallState.interrupted]
  · rcases ended with rfl | rfl <;>
      simp only [same, Repository.State.reconnect, Repository.State.exit, at_call,
        Repository.CallState.interrupted]
  · have outside : (s.repository.calls tag).flight = none := by
      rcases ended with rfl | rfl <;> rw [at_call] <;> rfl
    rcases (Repository.next_step moved).calls outside with same | ⟨flight, _, idle⟩
    · exact same.trans at_call
    · rcases ended with rfl | rfl <;> exact absurd (at_call.symm.trans idle) (by simp)

theorem raised_kept (step : Step settings driver s label t) {tag : Tag} {failure : Failure}
    (raised : s.Raised tag failure) : t.Raised tag failure := by
  cases failure with
  | invalid => exact step.grows.body raised
  | weather =>
    obtain ⟨message, body⟩ := raised
    exact ⟨message, step.grows.body body⟩
  | normalise exception =>
    obtain ⟨message, weather, body, failed⟩ := raised
    exact ⟨message, weather, step.grows.body body, failed⟩
  | store => exact step.call_kept raised (.inr rfl)

theorem raised_new (step : Step settings driver s label t) {tag : Tag} {failure : Failure}
    (logged : (tag, failure) ∈ t.raised) :
    (tag, failure) ∈ s.raised ∨
      s.Raised tag failure ∧ (failure = .weather → label = .enrich tag none) := by
  cases step with
  | failed found raised unanswered =>
    rcases List.mem_append.mp logged with logged | logged
    · exact .inl logged
    · cases List.mem_singleton.mp logged
      exact .inr ⟨raised, fun weather => by rw [unanswered weather]⟩
  | raised found raised =>
    rcases List.mem_append.mp logged with logged | logged
    · exact .inl logged
    · cases List.mem_singleton.mp logged
      exact .inr ⟨raised, nofun⟩
  | schedule found =>
    unfold State.addCallback at logged
    split at logged <;> exact .inl logged
  | _ => exact .inl logged

end Step

def State.Concluded (s : State) (tag : Tag) (ok : Bool) : Prop :=
  s.running.lookup tag = some (.finished ok) ∨ (tag, ok) ∈ s.callbacks ∨ (tag, ok) ∈ s.settled

theorem concluded_work {tag other : Tag} {work : Work} {ok : Bool}
    (concluded : (s.work tag work).Concluded other ok) :
    s.Concluded other ok ∨ (other = tag ∧ work = .finished ok) := by
  rcases concluded with finished | logged
  · by_cases own : other = tag
    · subst own
      simp only [State.work, AList.lookup_insert, Option.some.injEq] at finished
      exact .inr ⟨rfl, finished⟩
    · simp only [State.work, AList.lookup_insert_ne own] at finished
      exact .inl (.inl finished)
  · exact .inl (.inr logged)

/-- A delivery concludes well when its own call returned, and badly with an
exception of its own. -/
theorem Step.concluded (step : Step settings driver s label t) {tag : Tag} {ok : Bool}
    (concluded : t.Concluded tag ok) :
    s.Concluded tag ok ∨ (ok = true ∧ s.repository.calls tag = .returned) ∨
      (ok = false ∧ ∃ failure, (tag, failure) ∈ t.raised) := by
  cases step with
  | start _ _ _ =>
    rcases concluded_work concluded with before | ⟨_, same⟩
    · exact .inl before
    · cases same
  | enriched _ _ _ =>
    rcases concluded_work (s := s) concluded with before | ⟨_, same⟩
    · exact .inl before
    · cases same
  | failed _ _ _ =>
    rcases concluded_work (s := s) concluded with before | ⟨rfl, same⟩
    · exact .inl before
    · cases same
      exact .inr (.inr ⟨rfl, _, List.mem_append_right _ (List.mem_singleton.mpr rfl)⟩)
  | raised _ _ =>
    rcases concluded_work (s := s) concluded with before | ⟨rfl, same⟩
    · exact .inl before
    · cases same
      exact .inr (.inr ⟨rfl, _, List.mem_append_right _ (List.mem_singleton.mpr rfl)⟩)
  | returned _ returned =>
    rcases concluded_work (s := s) concluded with before | ⟨rfl, same⟩
    · exact .inl before
    · cases same
      exact .inr (.inl ⟨rfl, returned⟩)
  | @schedule own result found =>
    have erased {work : Work} (finished : (s.running.erase own).lookup tag = some work) :
        s.running.lookup tag = some work := by
      by_cases same : tag = own
      · subst same
        rw [AList.lookup_erase] at finished
        cases finished
      · rwa [AList.lookup_erase_ne same] at finished
    unfold State.addCallback at concluded
    split at concluded
    · rcases concluded with finished | pending | settled
      · exact .inl (.inl (erased finished))
      · rcases List.mem_append.mp pending with pending | pending
        · exact .inl (.inr (.inl pending))
        · cases List.mem_singleton.mp pending
          exact .inl (.inl found)
      · exact .inl (.inr (.inr settled))
    · rcases concluded with finished | logged
      · exact .inl (.inl (erased finished))
      · exact .inl (.inr logged)
  | settle pending _ =>
    rcases concluded with finished | waiting | settled
    · exact .inl (.inl finished)
    · exact .inl (.inr (.inl (List.mem_of_mem_eraseIdx waiting)))
    · rcases List.mem_append.mp settled with settled | settled
      · exact .inl (.inr (.inr settled))
      · cases List.mem_singleton.mp settled
        exact .inl (.inr (.inl (List.mem_of_getElem? pending)))
  | close _ _ _ =>
    rcases concluded with finished | pending | settled
    · cases finished
    · cases pending
    · exact .inl (.inr (.inr settled))
  | crash _ =>
    rcases concluded with finished | pending | settled
    · cases finished
    · cases pending
    · exact .inl (.inr (.inr settled))
  | disconnect _ =>
    rcases concluded with finished | pending | settled
    · exact .inl (.inl finished)
    · cases pending
    · exact .inl (.inr (.inr settled))
  | _ => exact .inl concluded

/-- What the outcomes, the calls and the commits of a state say about their deliveries. -/
structure Tracked (driver : Driver) (tables : Database) (s : State) : Prop where
  repository : Repository.Inv driver tables s.repository
  returned : ∀ tag, s.Concluded tag true → s.repository.calls tag = .returned
  raised : ∀ tag, s.Concluded tag false → ∃ failure, (tag, failure) ∈ s.raised
  failures : ∀ tag failure, (tag, failure) ∈ s.raised → s.Raised tag failure
  carried : ∀ tag flight, (s.repository.calls tag).flight = some flight → s.Enriched tag flight
  committed : ∀ commit ∈ s.repository.commits, s.Enriched commit.call commit.flight

theorem initial_tracked (driver : Driver) (tables : Database) :
    Tracked driver tables (initial tables) where
  repository := Repository.initial_inv driver tables
  returned tag concluded := by simp [State.Concluded, initial] at concluded
  raised tag concluded := by simp [State.Concluded, initial] at concluded
  failures tag failure logged := by simp [initial] at logged
  carried tag flight known := by
    simp [initial, Repository.initial, Repository.CallState.flight] at known
  committed commit member := by simp [initial, Repository.initial] at member

namespace Tracked

theorem carried_step (tracked : Tracked driver tables s) (step : Step settings driver s label t)
    {tag : Tag} {flight : EnrichedFlight} (known : (t.repository.calls tag).flight = some flight) :
    t.Enriched tag flight := by
  apply step.grows.enriched
  rcases step.repository with same | same | same | ⟨action, moved, own⟩
  · exact tracked.carried tag flight (same ▸ known)
  · rw [same] at known
    exact absurd ((Repository.interrupted_flight _).symm.trans known) nofun
  · rw [same] at known
    exact absurd ((Repository.interrupted_flight _).symm.trans known) nofun
  · rcases (Repository.next_step moved).flight known with before | called
    · exact tracked.carried tag flight before
    · exact own tag flight called

theorem committed_step (tracked : Tracked driver tables s) (step : Step settings driver s label t)
    {commit : Repository.Commit} (member : commit ∈ t.repository.commits) :
    t.Enriched commit.call commit.flight := by
  apply step.grows.enriched
  rcases step.commits with same | ⟨tag, _, flight, _, _, _, known, grown⟩
  · exact tracked.committed commit (same ▸ member)
  · rw [grown] at member
    rcases List.mem_append.mp member with before | last
    · exact tracked.committed commit before
    · rw [List.mem_singleton.mp last]
      exact tracked.carried tag flight known

theorem step (tracked : Tracked driver tables s) (step : Step settings driver s label t) :
    Tracked driver tables t where
  repository := by
    rcases step.repository with same | same | same | ⟨action, moved, _⟩
    · exact same ▸ tracked.repository
    · exact same ▸ tracked.repository.exit
    · exact same ▸ tracked.repository.reconnect
    · exact tracked.repository.step (Repository.next_step moved)
  returned tag concluded := by
    apply fun returned => step.call_kept returned (.inl rfl)
    rcases step.concluded concluded with before | ⟨_, returned⟩ | ⟨same, _⟩
    · exact tracked.returned tag before
    · exact returned
    · cases same
  raised tag concluded := by
    rcases step.concluded concluded with before | ⟨same, _⟩ | ⟨_, logged⟩
    · obtain ⟨failure, logged⟩ := tracked.raised tag before
      exact ⟨failure, step.grows.raised.subset logged⟩
    · cases same
    · exact logged
  failures tag failure logged := by
    apply step.raised_kept
    rcases step.raised_new logged with before | ⟨raised, _⟩
    · exact tracked.failures tag failure before
    · exact raised
  carried _ _ known := tracked.carried_step step known
  committed _ member := tracked.committed_step step member

end Tracked

theorem run_tracked {ls : List Label} (run : Run (Steps (next settings driver)) (initial tables) ls s) :
    Tracked driver tables s :=
  run.invariant (fun tracked moved => tracked.step (next_step moved)) (initial_tracked driver tables)

/-- A history row for the message of this delivery is among the committed tables. -/
def State.Recorded (s : State) (tag : Tag) : Prop :=
  ∃ flight, s.Enriched tag flight ∧ flight.modelDump ∈ s.repository.session.committed.history

theorem Tracked.recorded (tracked : Tracked driver tables s) {tag : Tag}
    (committed : tag ∈ s.repository.commits.map Repository.Commit.call) : s.Recorded tag := by
  obtain ⟨commit, member, rfl⟩ := List.mem_map.mp committed
  refine ⟨commit.flight, tracked.committed commit member, ?_⟩
  rw [tracked.repository.committed, Repository.history_serial]
  exact List.mem_append_right _ (List.mem_map.mpr ⟨commit, member, rfl⟩)

theorem run_acked {ls : List Label}
    (run : Run (Steps (next settings driver)) (initial tables) ls s) {tag : Tag}
    (acked : (tag, true) ∈ s.settled) :
    s.repository.calls tag = .returned ∧
      tag ∈ s.repository.commits.map Repository.Commit.call ∧ s.Recorded tag := by
  have tracked := run_tracked run
  have returned := tracked.returned tag (.inr (.inr acked))
  have committed := tracked.repository.returned tag returned
  exact ⟨returned, committed, tracked.recorded committed⟩

/-- A lookup is recorded as raised only at a step at which `get_weather` raised. -/
theorem run_unanswered {ls : List Label}
    (run : Run (Steps (next settings driver)) (initial tables) ls s) {tag : Tag}
    (logged : (tag, .weather) ∈ s.raised) : Label.enrich tag none ∈ ls := by
  have fresh : (tag, Failure.weather) ∉ (initial tables).raised := List.not_mem_nil
  obtain ⟨_, _, u, _, v, rfl, _, moved, before, after⟩ :=
    run.crossing (P := fun s => (tag, .weather) ∈ s.raised) fresh logged
  rcases (next_step moved).raised_new after with known | ⟨_, unanswered⟩
  · exact absurd known before
  · rw [unanswered rfl]
    exact List.mem_append_right _ List.mem_cons_self

theorem run_nacked {ls : List Label}
    (run : Run (Steps (next settings driver)) (initial tables) ls s) {tag : Tag}
    (nacked : (tag, false) ∈ s.settled) :
    ∃ failure, (tag, failure) ∈ s.raised ∧ s.Raised tag failure ∧
      (failure = .weather → Label.enrich tag none ∈ ls) := by
  have tracked := run_tracked run
  obtain ⟨failure, logged⟩ := tracked.raised tag (.inr (.inr nacked))
  refine ⟨failure, logged, tracked.failures tag failure logged, ?_⟩
  rintro rfl
  exact run_unanswered run logged

/-- The settlement protocol, in a state of the service which the run `ls` has reached. -/
structure Settlement (settings : Settings) (driver : Driver) (ls : List Label) (s : State) :
    Prop where
  once : (s.settled.map Prod.fst).Nodup
  acked : ∀ tag, (tag, true) ∈ s.settled →
    s.repository.calls tag = .returned ∧
      tag ∈ s.repository.commits.map Repository.Commit.call ∧ s.Recorded tag
  nacked : ∀ tag, (tag, false) ∈ s.settled →
    ∃ failure, (tag, failure) ∈ s.raised ∧ s.Raised tag failure ∧
      (failure = .weather → Label.enrich tag none ∈ ls)
  issued : ∀ label t, next settings driver s label = some t → t.settled ≠ s.settled →
    label.actor = .ioThread
  complete : s.phase.connected = true → s.executor = [] → s.running.keys = [] → s.callbacks = [] →
    ∀ tag, s.firstTag ≤ tag → tag < s.deliveries.length → (s.settled.map Prod.fst).count tag = 1

theorem settlement_protocol {ls : List Label}
    (run : Run (Steps (next settings driver)) (initial tables) ls s) :
    Settlement settings driver ls s := by
  have custody := run_custody run
  constructor
  · exact (List.nodup_append.mp (List.nodup_append.mp custody.nodup).1).2.1
  · intro tag acked
    exact run_acked run acked
  · intro tag nacked
    exact run_nacked run nacked
  · intro label t moved changed
    cases next_step moved with
    | settle _ _ => rfl
    | schedule _ =>
      unfold State.addCallback at changed
      split at changed <;> exact absurd rfl changed
    | _ => exact absurd rfl changed
  · intro connected queued working pending tag first delivered
    have tags := custody.tags.count_eq tag
    rw [List.count_eq_one_of_mem List.nodup_range (List.mem_range.mpr delivered)] at tags
    have held : s.held = [] := by simp [State.held, queued, working, pending]
    have kept : s.abandoned.count tag = 0 := by
      rw [List.count_eq_zero]
      intro abandoned
      exact Nat.not_lt.mpr first (custody.abandoned connected tag abandoned)
    simpa only [held, List.nil_append, List.count_append, kept, Nat.add_zero] using tags

def report (icao24 : String) (second : Nat) : FlightMessage where
  state := { icao24, originCountry := "Israel", timePosition := some (1735400000 + second % 60) }
  fetchedAt := ⟨(1735400010 + second % 60) * 1000000, by simp only [Python.minTimestamp]; omega,
    by simp only [Python.maxTimestamp]; omega⟩

def stored (tag : Tag) : List Label := [
  .store (.acquire tag),
  .store (.upsert tag .accepted 1735400021000000),
  .store (.append tag .accepted 1735400021000000),
  .store (.commit tag .accepted)]

/-- The second of two deliveries is stored first; the server refuses the other. -/
def mixedSchedule : List Label := [
    .publish (report "738065" 0),
    .publish (report "4ca7b3" 0),
    .deliver, .deliver, .start, .start, .enrich 1 (some none)] ++ stored 1 ++ [
    .enrich 0 (some none), .store (.acquire 0), .store (.upsert 0 .refused 1735400022000000),
    .finish 0, .finish 1, .schedule 0, .schedule 1, .settle 1, .settle 0]

theorem settlement_protocol_mixed : ∃ s,
    Run (Steps (next {} fun _ => true)) (initial .empty) mixedSchedule s ∧
      s.settled = [(1, true), (0, false)] ∧
        Settlement {} (fun _ => true) mixedSchedule s := by
  have passed : (replay (next {} fun _ => true) (initial .empty) mixedSchedule).any
      (fun s => s.settled = [(1, true), (0, false)]) = true := by decide
  obtain ⟨s, run, settled⟩ := run_of_test passed
  exact ⟨s, run, of_decide_eq_true settled, settlement_protocol run⟩

end FlightHub.Consumer
