import FlightHub.Consumer.Shutdown
import FlightHub.Transition.Measure

/-! The consumer never gets stuck. Whatever the weather service and the database
answer, some task can be taken until nothing is queued or unsettled, or `run`
has returned; and the tasks which are left are bounded by what is queued, held
and in progress. -/
namespace FlightHub.Repository
open Postgres Relational
variable {driver : Driver} {s t : State}

/-- The steps which a call of `upsert_flight` takes at most. -/
def CallState.remaining : CallState → Nat
  | .waiting _ => 4
  | .upserting _ => 3
  | .appending _ => 2
  | .committing _ => 1
  | .idle | .returned | .raised => 0

/-- What a step does to the calls: it begins one, brings one which is in
progress further, or touches none. -/
inductive Moves (s : State) : Action → (CallId → CallState) → Prop where
  | begins {id : CallId} {flight : EnrichedFlight} (idle : s.calls id = .idle) :
      Moves s (.call id flight) (Function.update s.calls id (.waiting flight))
  | advances {action : Action} {id : CallId} {call : CallState}
      (own : ∀ tag flight, action ≠ .call tag flight)
      (busy : (s.calls id).flight.isSome = true) (begun : call ≠ .idle)
      (fewer : call.remaining < (s.calls id).remaining) :
      Moves s action (Function.update s.calls id call)
  | lose : Moves s .lose s.calls

variable {action : Action}

theorem Step.moves (step : Step driver s action t) : Moves s action t.calls := by
  have advance {action : Action} {id : CallId} {before call : CallState}
      (at_call : s.calls id = before) (own : ∀ tag flight, action ≠ .call tag flight)
      (busy : before.flight.isSome = true) (begun : call ≠ .idle)
      (fewer : call.remaining < before.remaining) :
      Moves s action (Function.update s.calls id call) := by
    subst at_call
    exact .advances own busy begun fewer
  cases step with
  | call idle => exact .begins idle
  | acquire waiting _ | noCursor waiting =>
    exact advance waiting (by simp) rfl (by simp) (by simp [CallState.remaining])
  | upsert at_call _ | upsertFailed at_call _ =>
    exact advance at_call (by simp) rfl (by simp) (by simp [CallState.remaining])
  | append at_call _ | appendFailed at_call _ =>
    exact advance at_call (by simp) rfl (by simp) (by simp [CallState.remaining])
  | commit at_call _ | commitFailed at_call _ =>
    exact advance at_call (by simp) rfl (by simp) (by simp [CallState.remaining])
  | lose => exact .lose

/-- A call which has begun stays begun, and only `call` begins one. -/
theorem Moves.idle_iff {calls : CallId → CallState} (moves : Moves s action calls) (id : CallId) :
    calls id = .idle ↔ s.calls id = .idle ∧ ∀ flight, action ≠ .call id flight := by
  cases moves with
  | @begins own flight idle =>
    by_cases same : id = own
    · subst same
      simp [Function.update_self]
    · simp [Function.update_of_ne same, Ne.symm same]
  | @advances _ own call foreign busy begun fewer =>
    by_cases same : id = own
    · subst same
      rw [Function.update_self]
      refine ⟨fun idle => absurd idle begun, fun ⟨idle, _⟩ => ?_⟩
      rw [idle] at busy
      cases busy
    · rw [Function.update_of_ne same]
      exact ⟨fun idle => ⟨idle, foreign id⟩, And.left⟩
  | lose => simp

theorem Moves.begun {calls : CallId → CallState} {id : CallId} {flight : EnrichedFlight}
    (moves : Moves s (.call id flight) calls) :
    calls = Function.update s.calls id (.waiting flight) := by
  cases moves with
  | begins idle => rfl
  | advances own _ _ _ => exact absurd rfl (own id flight)

section Enabled
variable {id : CallId} {flight : EnrichedFlight}

theorem acquire_enabled (waiting : s.calls id = .waiting flight) (free : s.lock = none) :
    (next driver s (.acquire id)).isSome = true := by
  simp only [next, waiting, free]
  split <;> rfl

theorem upsert_enabled (at_call : s.calls id = .upserting flight) (reply : Reply) (clock : Instant) :
    (next driver s (.upsert id reply clock)).isSome = true := by
  simp only [next, at_call]
  split <;> rfl

theorem append_enabled (at_call : s.calls id = .appending flight) (reply : Reply) (clock : Instant) :
    (next driver s (.append id reply clock)).isSome = true := by
  simp only [next, at_call]
  split <;> rfl

theorem commit_enabled (at_call : s.calls id = .committing flight) (reply : CommitReply) :
    (next driver s (.commit id reply)).isSome = true := by
  simp only [next, at_call]
  split <;> rfl

end Enabled
end FlightHub.Repository

namespace FlightHub.Consumer
open Postgres Transition
/-- What the IO thread or a worker does next. -/
inductive Task where
  | deliver
  | start
  | enrich (tag : Tag)
  | acquire (tag : Tag)
  | upsert (tag : Tag)
  | append (tag : Tag)
  | commit (tag : Tag)
  | finish (tag : Tag)
  | schedule (tag : Tag)
  | settle (position : Nat)
  | leaveLoop
  | close

/-- What the services which a task waits for may answer. -/
structure Answer where
  lookup : Option (Option WeatherReading)
  statement : Reply
  commit : CommitReply
  clock : Instant

def Task.label (answer : Answer) : Task → Label
  | .deliver => .deliver
  | .start => .start
  | .enrich tag => .enrich tag answer.lookup
  | .acquire tag => .store (.acquire tag)
  | .upsert tag => .store (.upsert tag answer.statement answer.clock)
  | .append tag => .store (.append tag answer.statement answer.clock)
  | .commit tag => .store (.commit tag answer.commit)
  | .finish tag => .finish tag
  | .schedule tag => .schedule tag
  | .settle position => .settle position
  | .leaveLoop => .leaveLoop
  | .close => .close

/-- The steps of the consumer itself. -/
def Label.Own (label : Label) : Prop := ∃ task answer, label = Task.label answer task

/-- The task can be taken, whatever it is answered. -/
def State.Enabled (settings : Settings) (driver : Driver) (s : State) (task : Task) : Prop :=
  ∀ answer, (next settings driver s (task.label answer)).isSome = true

/-- `run` has returned, or it waits for messages with nothing queued or unsettled. -/
def State.Idle (s : State) : Prop :=
  s.phase = .closed ∨ s.phase = .consuming ∧ s.queue = [] ∧ s.unacked = []

variable {settings : Settings} {driver : Driver} {tables : Database} {s t : State} {label : Label}

theorem lookup_work_cases {own tag : Tag} {made work : Work}
    (found : (s.work own made).running.lookup tag = some work) :
    (tag = own ∧ work = made) ∨ (tag ≠ own ∧ s.running.lookup tag = some work) := by
  by_cases same : tag = own
  · subst same
    rw [State.work, AList.lookup_insert, Option.some.injEq] at found
    exact .inl ⟨rfl, found.symm⟩
  · exact .inr ⟨same, (lookup_work s made same).symm.trans found⟩

theorem lookup_addCallback {own tag : Tag} {ok : Bool} {work : Work}
    (found : ({ s with running := s.running.erase own }.addCallback own ok).running.lookup tag =
      some work) : s.running.lookup tag = some work := by
  have kept : (s.running.erase own).lookup tag = some work := by
    unfold State.addCallback at found
    split at found <;> exact found
  by_cases gone : tag = own
  · rw [gone, AList.lookup_erase] at kept
    cases kept
  · rwa [AList.lookup_erase_ne gone] at kept

/-- No worker has called `upsert_flight` for this delivery yet. -/
def State.Unstarted (s : State) (tag : Tag) : Prop :=
  tag ∈ s.executor ∨ s.running.lookup tag = some .received ∨ s.deliveries.length ≤ tag

/-- Which calls of `upsert_flight` have begun, and whose they are. -/
structure Engaged (s : State) : Prop where
  delivered : ∀ id ∈ s.deliveries, id < s.published.length
  unstarted : ∀ tag, s.Unstarted tag → s.repository.calls tag = .idle
  begun : ∀ tag, s.running.lookup tag = some .storing → s.repository.calls tag ≠ .idle
  storing : s.Storing

theorem initial_engaged (tables : Database) : Engaged (initial tables) where
  delivered _ member := by cases member
  unstarted _ _ := rfl
  begun tag found := by cases found
  storing tag flight known := by cases known

namespace Engaged

theorem body (engaged : Engaged s) {tag : Tag} (bound : tag < s.deliveries.length) :
    ∃ body, s.body tag = some body := by
  have published := engaged.delivered s.deliveries[tag] (List.getElem_mem bound)
  exact ⟨_, by rw [State.body, List.getElem?_eq_getElem bound, Option.bind_some,
    List.getElem?_eq_getElem published]⟩

theorem delivered_step (engaged : Engaged s) (custody : Custody s)
    (step : Step settings driver s label t) : ∀ id ∈ t.deliveries, id < t.published.length := by
  cases step with
  | publish body =>
    intro id member
    rw [List.length_append]
    exact Nat.lt_add_right _ (engaged.delivered id member)
  | @deliver id queue next_up consuming admitted =>
    intro other member
    rcases List.mem_append.mp member with before | last
    · exact engaged.delivered other before
    · rw [List.mem_singleton.mp last]
      exact List.mem_range.mp (custody.messages.mem_iff.mp
        (List.mem_append_left _ (next_up ▸ List.mem_cons_self)))
  | schedule found =>
    unfold State.addCallback
    split <;> exact engaged.delivered
  | _ => exact engaged.delivered

/-- A delivery whose call has not begun never had one in progress before. -/
theorem unstarted_step (engaged : Engaged s) (custody : Custody s)
    (step : Step settings driver s label t) {tag : Tag} (unstarted : t.Unstarted tag) :
    t.repository.calls tag = .idle := by
  have idle := engaged.unstarted tag
  -- another delivery's work does not touch this one
  have apart {own : Tag} (work : Work) (other : work ≠ .received) (found : own ∈ s.running.keys)
      (waits : tag ∈ s.executor ∨ (s.work own work).running.lookup tag = some .received ∨
        s.deliveries.length ≤ tag) : tag ≠ own ∧ s.Unstarted tag := by
    by_cases same : tag = own
    · subst same
      rcases waits with queued | received | new
      · have nodup := custody.nodup
        simp only [State.held, List.append_assoc, List.nodup_append] at nodup
        exact absurd rfl (nodup.2.2 tag queued tag (List.mem_append_left _ found))
      · rw [State.work, AList.lookup_insert, Option.some.injEq] at received
        exact absurd received other
      · have bound := custody.delivered (List.mem_append_left _ (List.mem_append_left _
          (List.mem_append_left _ (List.mem_append_right s.executor found))))
        exact absurd bound (Nat.not_lt.mpr new)
    · refine ⟨same, ?_⟩
      rwa [lookup_work s work same] at waits
  cases step with
  | deliver _ _ _ =>
    rcases unstarted with queued | received | new
    · rcases List.mem_append.mp queued with before | last
      · exact idle (.inl before)
      · exact idle (.inr (.inr (List.mem_singleton.mp last).ge))
    · exact idle (.inr (.inl received))
    · rw [State.onMessage, List.length_append] at new
      exact idle (.inr (.inr (Nat.le_of_add_right_le new)))
  | @start own executor first _ _ =>
    rcases unstarted with queued | received | new
    · exact idle (.inl (first ▸ List.mem_cons_of_mem _ queued))
    · by_cases same : tag = own
      · exact idle (.inl (by rw [first, same]; exact List.mem_cons_self))
      · rw [lookup_work _ _ same] at received
        exact idle (.inr (.inl received))
    · exact idle (.inr (.inr new))
  | failed found _ => exact idle (apart (.finished false) (by simp) (mem_keys_of_lookup found) unstarted).2
  | enriched found _ called =>
    obtain ⟨differs, before⟩ := apart .storing (by simp) (mem_keys_of_lookup found) unstarted
    refine ((Repository.next_step called).moves.idle_iff tag).mpr ⟨idle before, ?_⟩
    rintro flight ⟨⟩
    exact differs rfl
  | store _ own stored =>
    exact ((Repository.next_step stored).moves.idle_iff tag).mpr ⟨idle unstarted, own tag⟩
  | returned found _ => exact idle (apart (.finished true) (by simp) (mem_keys_of_lookup found) unstarted).2
  | raised found _ => exact idle (apart (.finished false) (by simp) (mem_keys_of_lookup found) unstarted).2
  | schedule _ =>
    have before : s.Unstarted tag := by
      rcases unstarted with queued | received | new
      · unfold State.addCallback at queued
        split at queued <;> exact .inl queued
      · exact .inr (.inl (lookup_addCallback received))
      · unfold State.addCallback at new
        split at new <;> exact .inr (.inr new)
    unfold State.addCallback
    split <;> exact idle before
  | close _ _ _ | crash _ =>
    have new : s.deliveries.length ≤ tag := by
      rcases unstarted with queued | received | new
      · cases queued
      · cases received
      · exact new
    simp only [State.exit, State.disconnected, Repository.State.exit, idle (.inr (.inr new)),
      Repository.CallState.interrupted]
  | restart _ =>
    simp only [Repository.State.reconnect, Repository.State.exit, idle unstarted,
      Repository.CallState.interrupted]
  | _ => exact idle unstarted

theorem begun_step (engaged : Engaged s) (step : Step settings driver s label t) {tag : Tag}
    (storing : t.running.lookup tag = some .storing) : t.repository.calls tag ≠ .idle := by
  have begun := engaged.begun tag
  cases step with
  | start _ _ _ | returned _ _ =>
    rcases lookup_work_cases storing with ⟨_, same⟩ | ⟨_, before⟩
    · cases same
    · exact begun before
  | @failed _ _ _ found _ | @raised _ found _ =>
    rcases @lookup_work_cases s _ _ _ _ storing with ⟨_, same⟩ | ⟨_, before⟩
    · cases same
    · exact begun before
  | @enriched own lookup flight repository found _ called =>
    intro idle
    obtain ⟨unbegun, other⟩ := ((Repository.next_step called).moves.idle_iff tag).mp idle
    rcases @lookup_work_cases s _ _ _ _ storing with ⟨same, _⟩ | ⟨_, before⟩
    · exact other flight (same ▸ rfl)
    · exact begun before unbegun
  | store _ own stored =>
    intro idle
    exact begun storing (((Repository.next_step stored).moves.idle_iff tag).mp idle).1
  | schedule _ =>
    have before := lookup_addCallback storing
    unfold State.addCallback
    split <;> exact begun before
  | close _ _ _ | crash _ => cases storing
  | restart _ =>
    have active := begun storing
    cases call : s.repository.calls tag with
    | idle => exact absurd call active
    | _ => simp [Repository.State.reconnect, Repository.State.exit, call,
        Repository.CallState.interrupted]
  | _ => exact begun storing

theorem step (engaged : Engaged s) (custody : Custody s) (step : Step settings driver s label t) :
    Engaged t where
  delivered := engaged.delivered_step custody step
  unstarted _ unstarted := engaged.unstarted_step custody step unstarted
  begun _ storing := engaged.begun_step step storing
  storing := engaged.storing.step custody step

end Engaged

theorem run_engaged {ls : List Label} (run : Run (Steps (next settings driver)) (initial tables) ls s) :
    Engaged s := by
  induction run with
  | refl => exact initial_engaged tables
  | next before moved ih => exact ih.step (run_custody before) (next_step moved)

section Enabled

theorem store_enabled (alive : s.phase ≠ .closed) {action : Repository.Action}
    (own : ∀ tag flight, action ≠ .call tag flight)
    (enabled : (Repository.next driver s.repository action).isSome = true) :
    (next settings driver s (.store action)).isSome = true := by
  cases action with
  | call tag flight => exact absurd rfl (own tag flight)
  | _ => simpa only [next, if_neg alive, Option.isSome_map] using enabled

theorem holding_enabled (alive : s.phase ≠ .closed) {tag : Tag}
    (holding : (s.repository.calls tag).Holding) : ∃ task, s.Enabled settings driver task := by
  cases at_call : s.repository.calls tag with
  | upserting flight =>
    refine ⟨.upsert tag, fun answer => store_enabled alive (by simp) ?_⟩
    exact Repository.upsert_enabled at_call _ _
  | appending flight =>
    refine ⟨.append tag, fun answer => store_enabled alive (by simp) ?_⟩
    exact Repository.append_enabled at_call _ _
  | committing flight =>
    refine ⟨.commit tag, fun answer => store_enabled alive (by simp) ?_⟩
    exact Repository.commit_enabled at_call _
  | _ =>
    rw [at_call] at holding
    exact holding.elim

/-- The call of a storing worker has ended, or it or the holder of the lock goes on. -/
theorem storing_enabled (inv : Repository.Inv driver tables s.repository) (alive : s.phase ≠ .closed)
    {tag : Tag} (found : s.running.lookup tag = some .storing)
    (begun : s.repository.calls tag ≠ .idle) : ∃ task, s.Enabled settings driver task := by
  cases at_call : s.repository.calls tag with
  | idle => exact absurd at_call begun
  | waiting flight =>
    cases locked : s.repository.lock with
    | none =>
      refine ⟨.acquire tag, fun answer => store_enabled alive (by simp) ?_⟩
      exact Repository.acquire_enabled at_call locked
    | some holder => exact holding_enabled alive ((inv.holder holder).mp locked)
  | returned | raised =>
    refine ⟨.finish tag, fun answer => ?_⟩
    simp only [Task.label, next, found, at_call, Option.isSome_some]
  | _ => exact @holding_enabled _ _ _ alive tag (by rw [at_call]; trivial)

theorem enrich_enabled {tag : Tag} (found : s.running.lookup tag = some .received) {body : Body}
    (delivered : s.body tag = some body) (idle : s.repository.calls tag = .idle) :
    s.Enabled settings driver (.enrich tag) := by
  intro answer
  simp only [Task.label, next, found, processMessage, delivered]
  cases body with
  | none => rfl
  | some message =>
    cases answer.lookup with
    | none => rfl
    | some weather =>
      cases made : EnrichedFlight.fromFlightMessage message weather with
      | error exception => simp only [made, Option.isSome_some]
      | ok flight => simp only [made, Repository.next, idle, Option.map_some, Option.isSome_some]

/-- While a delivery is queued or with a worker, a worker can go on. -/
theorem worker_enabled (custody : Custody s) (engaged : Engaged s)
    (inv : Repository.Inv driver tables s.repository) (workers : 0 < settings.consumerWorkerThreads)
    (alive : s.phase ≠ .closed) (held : s.executor ≠ [] ∨ s.running.keys ≠ []) :
    ∃ task, s.Enabled settings driver task := by
  by_cases resting : s.running.keys = []
  · obtain ⟨tag, executor, first⟩ := List.exists_cons_of_ne_nil (held.resolve_right (absurd resting))
    refine ⟨.start, fun answer => ?_⟩
    simp only [Task.label, next, first, resting, List.length_nil, workers, if_true,
      Option.isSome_some]
  · obtain ⟨tag, rest, working⟩ := List.exists_cons_of_ne_nil resting
    have member : tag ∈ s.running.keys := working ▸ List.mem_cons_self
    obtain ⟨work, found⟩ := Option.isSome_iff_exists.mp (AList.lookup_isSome.mpr member)
    cases work with
    | received =>
      have bound := custody.delivered (List.mem_append_left _ (List.mem_append_left _
        (List.mem_append_left _ (List.mem_append_right s.executor member))))
      obtain ⟨body, delivered⟩ := engaged.body bound
      exact ⟨_, enrich_enabled found delivered (engaged.unstarted tag (.inr (.inl found)))⟩
    | storing => exact storing_enabled inv alive found (engaged.begun tag found)
    | finished ok =>
      refine ⟨.schedule tag, fun answer => ?_⟩
      simp only [Task.label, next, found, Option.isSome_some]

end Enabled

theorem progress (custody : Custody s) (engaged : Engaged s)
    (inv : Repository.Inv driver tables s.repository)
    (workers : 0 < settings.consumerWorkerThreads) :
    s.Idle ∨ ∃ task, s.Enabled settings driver task := by
  by_cases held : s.executor ≠ [] ∨ s.running.keys ≠ []
  · by_cases closed : s.phase = .closed
    · exact .inl (.inl closed)
    · exact .inr (worker_enabled custody engaged inv workers closed held)
  obtain ⟨queued, working⟩ := not_or.mp held
  have queued := not_not.mp queued
  have working := not_not.mp working
  cases phase : s.phase with
  | consuming =>
    cases pending : s.callbacks with
    | cons callback rest =>
      refine .inr ⟨.settle 0, fun answer => ?_⟩
      simp [Task.label, next, pending, phase, Phase.inLoop]
    | nil =>
      have settled : s.unacked = [] := by
        have unacked := custody.unacked (by rw [phase]; rfl)
        rw [State.held, queued, working, pending] at unacked
        exact List.perm_nil.mp unacked
      cases waiting : s.queue with
      | nil => exact .inl (.inr ⟨phase, waiting, settled⟩)
      | cons id queue =>
        refine .inr ⟨.deliver, fun answer => ?_⟩
        have admitted : settings.admits 0 = true := by
          unfold Settings.admits
          rcases Nat.eq_zero_or_pos settings.consumerPrefetchCount with unlimited | limited
          · simp [unlimited]
          · simp [limited]
        simp only [Task.label, next, waiting, phase, settled, List.length_nil, admitted, if_true,
          Option.isSome_some]
  | stopping =>
    refine .inr ⟨.leaveLoop, fun answer => ?_⟩
    simp only [Task.label, next, phase, Option.isSome_some]
  | draining connected =>
    refine .inr ⟨.close, fun answer => ?_⟩
    simp only [Task.label, next, phase, queued, working, and_self, if_true, Option.isSome_some]
  | closed => exact .inl (.inl phase)

section Measure

/-- The steps which the processing of a running delivery takes at most, with its callback. -/
def State.remaining (s : State) (tag : Tag) : Nat :=
  match s.running.lookup tag with
  | none => 0
  | some .received => 8
  | some .storing => 3 + (s.repository.calls tag).remaining
  | some (.finished _) => 2

def Phase.remaining : Phase → Nat
  | .consuming | .stopping => 2
  | .draining _ => 1
  | .closed => 0

/-- What is queued counts only while the service takes deliveries. -/
def State.undelivered (s : State) : Nat :=
  match s.phase with
  | .consuming => s.queue.length
  | _ => 0

def State.inProgress (s : State) : Nat := (s.running.keys.map s.remaining).sum

/-- A bound on the tasks which are left. -/
def State.remainingSteps (s : State) : Nat :=
  10 * s.undelivered + 9 * s.executor.length + s.inProgress + s.callbacks.length + s.phase.remaining

theorem remaining_congr {other : Tag} (lookup : t.running.lookup other = s.running.lookup other)
    (calls : t.repository.calls other = s.repository.calls other) :
    t.remaining other = s.remaining other := by
  simp only [State.remaining, lookup, calls]

theorem inProgress_moved {tag : Tag} (member : tag ∈ s.running.keys)
    (keys : t.running.keys.Perm s.running.keys)
    (others : ∀ other ≠ tag, t.remaining other = s.remaining other) :
    t.inProgress + s.remaining tag = s.inProgress + t.remaining tag := by
  rw [State.inProgress, (keys.map t.remaining).sum_eq]
  exact sum_map_moved s.running.keys_nodup member others

theorem inProgress_start {tag : Tag} {executor : List Tag} (fresh : tag ∉ s.running.keys) :
    ({ s with executor }.work tag .received).inProgress = s.inProgress + 8 := by
  have own : ({ s with executor }.work tag .received).remaining tag = 8 := by
    simp only [State.remaining, State.work, AList.lookup_insert]
  have others : s.running.keys.map ({ s with executor }.work tag .received).remaining =
      s.running.keys.map s.remaining := by
    refine List.map_congr_left fun other member => remaining_congr (lookup_work _ _ ?_) rfl
    rintro rfl
    exact fresh member
  have keys : ({ s with executor }.work tag .received).running.keys = tag :: s.running.keys := by
    simp only [State.work, AList.keys_insert, List.erase_of_not_mem fresh]
  rw [State.inProgress, keys, List.map_cons, List.sum_cons, own, others, Nat.add_comm]
  rfl

theorem inProgress_schedule {tag : Tag} {ok : Bool}
    (found : s.running.lookup tag = some (.finished ok)) :
    ({ s with running := s.running.erase tag }.addCallback tag ok).inProgress + 2 =
      s.inProgress := by
  have own : s.remaining tag = 2 := by simp only [State.remaining, found]
  have split := List.perm_cons_erase (mem_keys_of_lookup found)
  have others : (s.running.keys.erase tag).map
      ({ s with running := s.running.erase tag }.addCallback tag ok).remaining =
        (s.running.keys.erase tag).map s.remaining := by
    refine List.map_congr_left fun other member => ?_
    have differs : other ≠ tag := by
      rintro rfl
      exact s.running.keys_nodup.not_mem_erase member
    unfold State.addCallback
    split <;> exact remaining_congr (AList.lookup_erase_ne differs) rfl
  have keys : ({ s with running := s.running.erase tag }.addCallback tag ok).running.keys =
      s.running.keys.erase tag := by
    unfold State.addCallback
    split <;> exact AList.keys_erase tag s.running
  rw [State.inProgress, State.inProgress, keys, (split.map s.remaining).sum_eq, List.map_cons,
    List.sum_cons, own, others, Nat.add_comm]

theorem addCallback_frame (s : State) (tag : Tag) (ok : Bool) :
    (s.addCallback tag ok).undelivered = s.undelivered ∧
      (s.addCallback tag ok).executor = s.executor ∧
      (s.addCallback tag ok).callbacks.length ≤ s.callbacks.length + 1 ∧
      (s.addCallback tag ok).phase = s.phase := by
  unfold State.addCallback
  split
  · exact ⟨rfl, rfl, by simp, rfl⟩
  · exact ⟨rfl, rfl, by simp, rfl⟩

/-- Where nothing moved but the work in progress, that decides. -/
theorem remainingSteps_lt (undelivered : t.undelivered = s.undelivered)
    (executor : t.executor = s.executor) (callbacks : t.callbacks = s.callbacks)
    (phase : t.phase = s.phase) (fewer : t.inProgress < s.inProgress) :
    t.remainingSteps < s.remainingSteps := by
  rw [State.remainingSteps, State.remainingSteps, undelivered, executor, callbacks, phase]
  omega

/-- A worker brought its own delivery further. -/
theorem work_lowers {tag : Tag} {before after : Work} (found : s.running.lookup tag = some before)
    (raised : List (Tag × Failure)) (repository : Repository.State)
    (others : ∀ other ≠ tag, repository.calls other = s.repository.calls other)
    (fewer : ({ s.work tag after with raised, repository } : State).remaining tag <
      s.remaining tag) :
    ({ s.work tag after with raised, repository } : State).remainingSteps < s.remainingSteps := by
  have member := mem_keys_of_lookup found
  refine remainingSteps_lt rfl rfl rfl rfl ?_
  have moved := @inProgress_moved s { s.work tag after with raised, repository } tag member
    (keys_insert_perm member) fun other differs =>
      remaining_congr (lookup_work s after differs) (others other differs)
  omega

theorem store_lowers (engaged : Engaged s) {action : Repository.Action} {repository : Repository.State}
    (own : ∀ tag flight, action ≠ .call tag flight) (kept : action ≠ .lose)
    (stored : Repository.next driver s.repository action = some repository) :
    ({ s with repository } : State).remainingSteps < s.remainingSteps := by
  obtain ⟨calls, same⟩ : ∃ calls, calls = repository.calls := ⟨_, rfl⟩
  have moves := (Repository.next_step stored).moves
  rw [← same] at moves
  cases moves with
  | begins idle => exact absurd rfl (own _ _)
  | lose => exact absurd rfl kept
  | @advances _ tag call _ busy begun fewer =>
    obtain ⟨flight, known⟩ := Option.isSome_iff_exists.mp busy
    have found := engaged.storing tag flight known
    have now : repository.calls tag = call := by rw [← same, Function.update_self]
    refine remainingSteps_lt rfl rfl rfl rfl ?_
    have moved := @inProgress_moved s { s with repository } tag (mem_keys_of_lookup found) (.refl _)
      fun other differs => remaining_congr rfl
        ((congrFun same other).symm.trans (Function.update_of_ne differs _ _))
    have lower : ({ s with repository } : State).remaining tag < s.remaining tag := by
      simp only [State.remaining, found, now]
      omega
    omega

theorem own_lowers (custody : Custody s) (engaged : Engaged s)
    (step : Step settings driver s label t) (own : label.Own) :
    t.remainingSteps < s.remainingSteps := by
  obtain ⟨task, answer, same⟩ := own
  cases step with
  | @deliver id queue next_up consuming _ =>
    have before : s.undelivered = queue.length + 1 := by
      simp only [State.undelivered, consuming, next_up, List.length_cons]
    have after : ({ s with queue }.onMessage id).undelivered = queue.length := by
      simp only [State.undelivered, State.onMessage, consuming]
    have kept : ({ s with queue }.onMessage id).inProgress = s.inProgress := rfl
    rw [State.remainingSteps, State.remainingSteps, before, after, kept]
    simp only [State.onMessage, List.length_append, List.length_singleton]
    omega
  | @start tag executor first _ _ =>
    have grown := @inProgress_start s tag executor (custody.unstarted first)
    have kept : ({ s with executor }.work tag .received).undelivered = s.undelivered := rfl
    rw [State.remainingSteps, State.remainingSteps, grown, kept, first]
    simp only [State.work, List.length_cons]
    omega
  | failed found _ =>
    refine work_lowers found _ s.repository (fun _ _ => rfl) ?_
    simp [State.remaining, State.work, found]
  | @enriched tag lookup flight repository found _ called =>
    have begun := (Repository.next_step called).moves.begun
    refine work_lowers found s.raised repository (fun other differs => ?_) ?_
    · rw [begun, Function.update_of_ne differs]
    · simp only [State.remaining, State.work, AList.lookup_insert, found, begun,
        Function.update_self, Repository.CallState.remaining]
      omega
  | store _ own stored =>
    refine store_lowers engaged own ?_ stored
    rintro rfl
    cases task <;> cases same
  | returned found returned =>
    refine work_lowers found s.raised s.repository (fun _ _ => rfl) ?_
    simp only [State.remaining, State.work, AList.lookup_insert, found]
    omega
  | raised found raised =>
    refine work_lowers found _ s.repository (fun _ _ => rfl) ?_
    simp only [State.remaining, State.work, AList.lookup_insert, found]
    omega
  | @schedule tag ok found =>
    have fewer := inProgress_schedule found
    obtain ⟨undelivered, executor, callbacks, phase⟩ :=
      addCallback_frame { s with running := s.running.erase tag } tag ok
    have kept : ({ s with running := s.running.erase tag } : State).undelivered = s.undelivered := rfl
    rw [State.remainingSteps, State.remainingSteps, undelivered, executor, phase, kept]
    simp only at callbacks ⊢
    omega
  | @settle position tag ok pending _ =>
    have shorter : (s.callbacks.eraseIdx position).length + 1 = s.callbacks.length := by
      have bound := (List.getElem?_eq_some_iff.mp pending).1
      rw [List.length_eraseIdx_of_lt bound]
      omega
    have undelivered : ({ s with callbacks := s.callbacks.eraseIdx position }.ackOrNack
        tag ok).undelivered = s.undelivered := rfl
    have inProgress : ({ s with callbacks := s.callbacks.eraseIdx position }.ackOrNack
        tag ok).inProgress = s.inProgress := rfl
    rw [State.remainingSteps, State.remainingSteps, undelivered, inProgress, ← shorter]
    simp only [State.ackOrNack]
    omega
  | leaveLoop stopping =>
    have before : s.undelivered = 0 := by simp only [State.undelivered, stopping]
    have kept : ({ s with phase := .draining true } : State).inProgress = s.inProgress := rfl
    rw [State.remainingSteps, State.remainingSteps, before, kept, stopping]
    simp only [State.undelivered, Phase.remaining]
    omega
  | close draining queued working =>
    have ended : s.exit.remainingSteps = 0 := rfl
    rw [ended, State.remainingSteps, draining, Phase.remaining]
    omega
  | _ => cases task <;> cases same

end Measure

theorem own_keeps (step : Step settings driver s label t) (own : label.Own) :
    t.published = s.published ∧ (t.phase = .consuming ↔ s.phase = .consuming) := by
  obtain ⟨task, answer, same⟩ := own
  cases step with
  | schedule found =>
    unfold State.addCallback
    split <;> exact ⟨rfl, .rfl⟩
  | leaveLoop stopping => exact ⟨rfl, by simp [stopping]⟩
  | close draining _ _ => exact ⟨rfl, by simp [State.exit, draining]⟩
  | publish _ | signal _ | disconnect _ | crash _ | restart _ => cases task <;> cases same
  | _ => exact ⟨rfl, .rfl⟩

def OwnStep (settings : Settings) (driver : Driver) : State → Label → State → Prop :=
  Meeting (Steps (next settings driver)) fun _ label => label.Own

/-- What is known of a reachable state. -/
structure Reached (driver : Driver) (tables : Database) (s : State) : Prop where
  custody : Custody s
  engaged : Engaged s
  repository : Repository.Inv driver tables s.repository

theorem run_reached {ls : List Label}
    (run : Run (Steps (next settings driver)) (initial tables) ls s) : Reached driver tables s :=
  ⟨run_custody run, run_engaged run, (run_tracked run).repository⟩

theorem Reached.step (reached : Reached driver tables s) (step : Step settings driver s label t) :
    Reached driver tables t where
  custody := reached.custody.step step
  engaged := reached.engaged.step reached.custody step
  repository := by
    rcases step.repository with same | same | same | ⟨action, moved, _⟩
    · exact same ▸ reached.repository
    · exact same ▸ reached.repository.exit
    · exact same ▸ reached.repository.reconnect
    · exact reached.repository.step (Repository.next_step moved)

theorem own_descends : Descends (OwnStep settings driver) (Reached driver tables)
    State.remainingSteps := by
  intro s label t reached moved
  have step := next_step moved.1
  exact ⟨reached.step step, own_lowers reached.custody reached.engaged step moved.2⟩

theorem own_run_keeps {ls : List Label} (run : Run (OwnStep settings driver) s ls t) :
    t.published = s.published ∧ (t.phase = .consuming ↔ s.phase = .consuming) := by
  induction run with
  | refl => exact ⟨rfl, .rfl⟩
  | next _ moved ih =>
    obtain ⟨published, phase⟩ := own_keeps (next_step moved.1) moved.2
    exact ⟨published.trans ih.1, phase.trans ih.2⟩

/-- From this state on the service needs no outside event. Every schedule of its
own steps is bounded and nowhere stuck. Where it ends, a consumer has settled
every published message once, and one which was told to stop has returned. -/
structure Drains (settings : Settings) (driver : Driver) (s : State) : Prop where
  bounded : ∀ ls t, Run (OwnStep settings driver) s ls t →
    ls.length + t.remainingSteps ≤ s.remainingSteps
  unstuck : ∀ ls t, Run (OwnStep settings driver) s ls t →
    t.Idle ∨ ∃ task, t.Enabled settings driver task
  finishes : ∃ ls t, Run (OwnStep settings driver) s ls t ∧ t.Idle
  settled : s.phase = .consuming → ∀ ls t, Run (OwnStep settings driver) s ls t → t.Idle →
    (t.settled.map fun entry => t.message entry.1).Perm (List.range s.published.length)
  returned : s.phase ≠ .consuming → ∀ ls t, Run (OwnStep settings driver) s ls t → t.Idle →
    t.phase = .closed

theorem service_drains {ls : List Label} (workers : 0 < settings.consumerWorkerThreads)
    (run : Run (Steps (next settings driver)) (initial tables) ls s) :
    Drains settings driver s := by
  have reached := run_reached run
  have unstuck : ∀ u, Reached driver tables u → u.Idle ∨ ∃ task, u.Enabled settings driver task :=
    fun u known => progress known.custody known.engaged known.repository workers
  constructor
  · intro ms t own
    exact (own.length_le own_descends reached).2
  · intro ms t own
    exact unstuck t (own.length_le own_descends reached).1
  · refine exists_run_to own_descends (fun u known => (unstuck u known).imp_right ?_) reached
    rintro ⟨task, enabled⟩
    obtain ⟨t, moved⟩ := Option.isSome_iff_exists.mp
      (enabled ⟨none, .accepted, .accepted, 0⟩)
    exact ⟨_, t, moved, task, _, rfl⟩
  · intro consuming ms t own idle
    obtain ⟨published, phase⟩ := own_run_keeps own
    have custody := (own.length_le own_descends reached).1.custody
    obtain ⟨_, queued, unacked⟩ := idle.resolve_left (by rw [phase.mpr consuming]; nofun)
    exact published ▸ custody.all_settled queued unacked
  · intro stopped ms t own idle
    obtain ⟨_, phase⟩ := own_run_keeps own
    exact idle.resolve_right fun consuming => stopped (phase.mp consuming.1)

/-- Two messages, one of them unread, when the database connection is lost. -/
def interruptedSchedule : List Label := [
  .publish (report "738065" 0), .publish none, .deliver, .start, .enrich 0 (some none),
  .store (.acquire 0), .store .lose]

theorem service_drains_interrupted : ∃ s,
    Run (Steps (next {} fun _ => true)) (initial .empty) interruptedSchedule s ∧
      s.remainingSteps = 18 ∧ Drains {} (fun _ => true) s := by
  have passed : (replay (next {} fun _ => true) (initial .empty) interruptedSchedule).any
      (fun s => s.remainingSteps = 18) = true := by decide
  obtain ⟨s, run, steps⟩ := run_of_test passed
  exact ⟨s, run, of_decide_eq_true steps, service_drains (by decide) run⟩

end FlightHub.Consumer
