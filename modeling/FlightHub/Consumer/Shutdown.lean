import FlightHub.Consumer.Settlement

/-! Shutdown. The `finally` block waits for the workers, but the callbacks with
their acks run only inside the loop which has been left; a delivery committed
without its ack is delivered and committed again by the next run. -/
namespace FlightHub.Consumer
open Postgres Transition
variable {settings : Settings} {driver : Driver} {tables : Database} {s t : State} {label : Label}

/-- Every call which returned has been acked as far as the process goes: its
worker is done with it and its callback has run. -/
def State.Quiet (s : State) : Prop :=
  ∀ tag, s.repository.calls tag = .returned →
    s.running.lookup tag = none ∧ (tag, true) ∉ s.callbacks

/-- The loop of the IO thread ends when no ack is outstanding, no commit takes
effect outside it, and every commit which takes effect is acknowledged. -/
def AcksInLoop (s : State) : Label → Prop
  | .leaveLoop | .disconnect | .crash => s.Quiet
  | .store (.commit _ reply) => s.repository.Effective reply →
      s.phase.inLoop = true ∧ reply = .accepted
  | _ => True

/-- A call in progress is that of the worker which is storing its delivery. -/
def State.Storing (s : State) : Prop :=
  ∀ tag flight, (s.repository.calls tag).flight = some flight →
    s.running.lookup tag = some .storing

theorem lookup_work (s : State) {tag other : Tag} (work : Work) (differs : other ≠ tag) :
    (s.work tag work).running.lookup other = s.running.lookup other :=
  AList.lookup_insert_ne differs

theorem State.Storing.step (storing : s.Storing) (custody : Custody s)
    (step : Step settings driver s label t) : t.Storing := by
  have interrupted {call : Repository.CallState} {flight : EnrichedFlight}
      (known : call.interrupted.flight = some flight) : False :=
    absurd ((Repository.interrupted_flight call).symm.trans known) (by simp)
  intro tag flight known
  cases step with
  | @start own _ first _ _ =>
    have found := storing tag flight known
    have differs : tag ≠ own := fun same =>
      custody.unstarted first (same ▸ mem_keys_of_lookup found)
    exact (lookup_work _ _ differs).trans found
  | @failed own _ _ at_work _ =>
    have found := storing tag flight known
    have differs : tag ≠ own := by
      rintro rfl
      exact absurd (found.symm.trans at_work) (by simp)
    exact (lookup_work s _ differs).trans found
  | @enriched own _ _ _ at_work _ called =>
    by_cases same : tag = own
    · subst same
      exact AList.lookup_insert _
    · rcases (Repository.next_step called).flight known with before | made
      · exact (lookup_work s _ same).trans (storing tag flight before)
      · cases made
        exact absurd rfl same
  | store _ own stored =>
    rcases (Repository.next_step stored).flight known with before | made
    · exact storing tag flight before
    · exact absurd made (own tag flight)
  | @returned own at_work returned =>
    have differs : tag ≠ own := by
      rintro rfl
      simp only [State.work, returned, Repository.CallState.flight, reduceCtorEq] at known
    exact (lookup_work s _ differs).trans (storing tag flight known)
  | @raised own at_work raised =>
    have raised : s.repository.calls own = .raised := raised
    have differs : tag ≠ own := by
      rintro rfl
      simp only [State.fail, State.work, raised, Repository.CallState.flight, reduceCtorEq] at known
    exact (lookup_work s _ differs).trans (storing tag flight known)
  | @schedule own ok at_work =>
    unfold State.addCallback at known ⊢
    have found : s.running.lookup tag = some .storing := by
      split at known <;> exact storing tag flight known
    have differs : tag ≠ own := by
      rintro rfl
      exact absurd (found.symm.trans at_work) (by simp)
    split <;> exact (AList.lookup_erase_ne differs).trans found
  | close _ _ _ => exact (interrupted known).elim
  | crash _ => exact (interrupted known).elim
  | restart _ => exact (interrupted known).elim
  | _ => exact storing tag flight known

def State.AckPending (s : State) (tag : Tag) : Prop :=
  s.running.lookup tag = some .storing ∨ s.running.lookup tag = some (.finished true) ∨
    (tag, true) ∈ s.callbacks

theorem State.AckPending.work {tag own : Tag} {work : Work} (pending : s.AckPending tag)
    (kept : tag = own → s.running.lookup own ≠ some .storing ∧
      s.running.lookup own ≠ some (.finished true)) : (s.work own work).AckPending tag := by
  by_cases same : tag = own
  · subst same
    rcases pending with storing | finished | waiting
    · exact absurd storing (kept rfl).1
    · exact absurd finished (kept rfl).2
    · exact .inr (.inr waiting)
  · rcases pending with storing | finished | waiting
    · exact .inl ((lookup_work s work same).trans storing)
    · exact .inr (.inl ((lookup_work s work same).trans finished))
    · exact .inr (.inr waiting)

theorem State.AckPending.schedule {tag own : Tag} {ok : Bool} (pending : s.AckPending tag)
    (finished : s.running.lookup own = some (.finished ok)) (connected : s.phase.connected = true) :
    ({ s with running := s.running.erase own }.addCallback own ok).AckPending tag := by
  rw [State.addCallback, if_pos connected]
  by_cases same : tag = own
  · subst same
    rcases pending with storing | done | waiting
    · exact absurd (storing.symm.trans finished) nofun
    · obtain rfl : true = ok := by simpa [finished, eq_comm] using done
      exact .inr (.inr (by simp))
    · exact .inr (.inr (List.mem_append_left _ waiting))
  · rcases pending with storing | done | waiting
    · exact .inl ((AList.lookup_erase_ne same).trans storing)
    · exact .inr (.inl ((AList.lookup_erase_ne same).trans done))
    · exact .inr (.inr (List.mem_append_left _ waiting))

theorem Phase.connected_of_inLoop {phase : Phase} (looping : phase.inLoop = true) :
    phase.connected = true := by
  cases phase <;> first | rfl | cases looping

/-- The delivery has been acked, or will be by the loop which is running. -/
def State.Accounted (s : State) (tag : Tag) : Prop :=
  (tag, true) ∈ s.settled ∨ s.phase.inLoop = true ∧ s.AckPending tag

theorem State.Quiet.acked (quiet : s.Quiet) {tag : Tag}
    (returned : s.repository.calls tag = .returned) (accounted : s.Accounted tag) :
    (tag, true) ∈ s.settled := by
  obtain ⟨left, run⟩ := quiet tag returned
  rcases accounted with acked | ⟨_, storing | finished | waiting⟩
  · exact acked
  · exact absurd (left.symm.trans storing) nofun
  · exact absurd (left.symm.trans finished) nofun
  · exact absurd waiting run

theorem State.Accounted.step {tag : Tag} (accounted : s.Accounted tag) (custody : Custody s)
    (returned : s.repository.calls tag = .returned) (step : Step settings driver s label t)
    (acks : AcksInLoop s label) : t.Accounted tag := by
  rcases accounted with acked | ⟨looping, pending⟩
  · exact .inl (step.grows.settled.subset acked)
  cases step with
  | publish _ => exact .inr ⟨looping, pending⟩
  | deliver _ _ _ => exact .inr ⟨looping, pending⟩
  | start first _ _ =>
    have fresh := AList.lookup_eq_none.mpr (custody.unstarted first)
    refine .inr ⟨looping, State.AckPending.work (s := { s with executor := _ }) pending ?_⟩
    simp [fresh]
  | failed at_work _ => exact .inr ⟨looping, pending.work (by simp [at_work])⟩
  | enriched at_work _ _ => exact .inr ⟨looping, pending.work (by simp [at_work])⟩
  | store _ _ _ => exact .inr ⟨looping, pending⟩
  | @returned own at_work _ =>
    by_cases same : tag = own
    · subst same
      exact .inr ⟨looping, .inr (.inl (AList.lookup_insert _))⟩
    · exact .inr ⟨looping, pending.work fun equal => absurd equal same⟩
  | @raised own at_work raised =>
    have differs : tag ≠ own := by
      rintro rfl
      exact absurd (returned.symm.trans raised) nofun
    exact .inr ⟨looping, pending.work fun equal => absurd equal differs⟩
  | @schedule own ok at_work =>
    refine .inr ⟨?_, pending.schedule at_work (Phase.connected_of_inLoop looping)⟩
    unfold State.addCallback
    split <;> exact looping
  | @settle position own ok at_position _ =>
    rcases pending with storing | finished | waiting
    · exact .inr ⟨looping, .inl storing⟩
    · exact .inr ⟨looping, .inr (.inl finished)⟩
    · obtain ⟨bound, callback⟩ := List.getElem?_eq_some_iff.mp at_position
      rcases List.mem_cons.mp ((List.getElem_cons_eraseIdx_perm bound).mem_iff.mpr waiting) with
        same | rest
      · rw [callback] at same
        cases same
        exact .inl (List.mem_append_right _ (List.mem_singleton.mpr rfl))
      · exact .inr ⟨looping, .inr (.inr rest)⟩
  | signal _ => exact .inr ⟨rfl, pending⟩
  | leaveLoop _ => exact .inl (State.Quiet.acked acks returned (.inr ⟨looping, pending⟩))
  | close draining _ _ =>
    rw [draining] at looping
    cases looping
  | disconnect _ => exact .inl (State.Quiet.acked acks returned (.inr ⟨looping, pending⟩))
  | crash _ => exact .inl (State.Quiet.acked acks returned (.inr ⟨looping, pending⟩))
  | restart closed =>
    rw [closed] at looping
    cases looping

/-- Every committed call returned, and its delivery is accounted for. -/
structure Orderly (s : State) : Prop where
  storing : s.Storing
  returned : ∀ commit ∈ s.repository.commits, s.repository.calls commit.call = .returned
  accounted : ∀ commit ∈ s.repository.commits, s.Accounted commit.call

theorem initial_orderly (tables : Database) : Orderly (initial tables) where
  storing tag flight known := by
    simp [initial, Repository.initial, Repository.CallState.flight] at known
  returned commit member := by simp [initial, Repository.initial] at member
  accounted commit member := by simp [initial, Repository.initial] at member

theorem Orderly.step (orderly : Orderly s) (custody : Custody s)
    (step : Step settings driver s label t) (acks : AcksInLoop s label) : Orderly t := by
  have kept : ∀ commit ∈ s.repository.commits,
      t.repository.calls commit.call = .returned ∧ t.Accounted commit.call := by
    intro commit member
    have returned := orderly.returned commit member
    exact ⟨step.call_kept returned (.inl rfl),
      (orderly.accounted commit member).step custody returned step acks⟩
  have storing := orderly.storing.step custody step
  rcases step.commits with same | ⟨tag, reply, flight, started, rfl, effective, known, grown⟩
  · exact ⟨storing, fun commit member => (kept commit (same ▸ member)).1,
      fun commit member => (kept commit (same ▸ member)).2⟩
  · obtain ⟨looping, rfl⟩ := acks effective
    have found := orderly.storing tag flight known
    have last : t.repository.calls tag = .returned ∧ t.Accounted tag := by
      cases step with
      | store _ _ stored =>
        exact ⟨(Repository.next_step stored).commit_accepted effective,
          .inr ⟨looping, .inl found⟩⟩
    refine ⟨storing, ?_, ?_⟩ <;> intro commit member <;> rw [grown] at member <;>
      rcases List.mem_append.mp member with member | member
    · exact (kept commit member).1
    · exact List.mem_singleton.mp member ▸ last.1
    · exact (kept commit member).2
    · exact List.mem_singleton.mp member ▸ last.2

theorem run_orderly {ls : List Label}
    (run : Run (Meeting (Steps (next settings driver)) AcksInLoop) (initial tables) ls s) :
    Orderly s := by
  induction run with
  | refl => exact initial_orderly tables
  | next before moved ih =>
    exact ih.step (run_custody before.forget) (next_step moved.1) moved.2

/-- When a process has ended, each delivery it committed is acked and its
message is not in the queue; and no message is committed twice. -/
structure NothingDuplicated (s : State) : Prop where
  acked : s.phase = .closed → ∀ commit ∈ s.repository.commits,
    (commit.call, true) ∈ s.settled ∧ s.message commit.call ∉ s.queue
  once : (s.repository.commits.map fun commit => s.message commit.call).Nodup

theorem State.Accounted.placed {tag : Tag} (accounted : s.Accounted tag) (custody : Custody s) :
    tag ∈ s.unacked ++ s.settled.map Prod.fst := by
  rcases accounted with acked | ⟨looping, pending⟩
  · exact List.mem_append_right _ (List.mem_map.mpr ⟨_, acked, rfl⟩)
  · have held : tag ∈ s.held := by
      rcases pending with storing | finished | waiting
      · simp [State.held, mem_keys_of_lookup storing]
      · simp [State.held, mem_keys_of_lookup finished]
      · exact List.mem_append_right _ (List.mem_map.mpr ⟨_, waiting, rfl⟩)
    have unacked := custody.unacked (Phase.connected_of_inLoop looping)
    exact List.mem_append_left _ (unacked.mem_iff.mpr held)

/-- A shutdown duplicates nothing while no ack is outstanding when the loop
ends, nothing commits outside the loop and no commit goes unacknowledged. -/
theorem shutdown_clean {ls : List Label}
    (run : Run (Meeting (Steps (next settings driver)) AcksInLoop) (initial tables) ls s) :
    NothingDuplicated s := by
  have orderly := run_orderly run
  have custody := run_custody run.forget
  have inv := (run_tracked run.forget).repository
  obtain ⟨_, placed, apart⟩ := List.nodup_append.mp custody.messages_nodup
  constructor
  · intro closed commit member
    have accounted := orderly.accounted commit member
    have acked : (commit.call, true) ∈ s.settled := by
      rcases accounted with acked | ⟨looping, _⟩
      · exact acked
      · rw [closed] at looping
        cases looping
    refine ⟨acked, ?_⟩
    intro queued
    exact apart _ queued _ (List.mem_map_of_mem (accounted.placed custody)) rfl
  · have once := inv.once
    rw [List.Nodup, List.pairwise_map] at once ⊢
    refine List.Pairwise.imp_of_mem ?_ once
    intro first second earlier later differs same
    exact differs (List.inj_on_of_nodup_map placed
      ((orderly.accounted first earlier).placed custody)
      ((orderly.accounted second later).placed custody) same)

private def allHandled (s : State) : Label → Bool
  | .leaveLoop | .disconnect | .crash => s.running.keys = [] ∧ s.callbacks = []
  | .store (.commit _ reply) => s.phase.inLoop ∧ reply = .accepted
  | _ => true

private theorem allHandled_sound (s : State) (label : Label) (checked : allHandled s label = true) :
    AcksInLoop s label := by
  have quiet (empty : s.running.keys = [] ∧ s.callbacks = []) : s.Quiet := by
    intro tag _
    refine ⟨AList.lookup_eq_none.mpr fun member => ?_, by simp [empty.2]⟩
    rw [AList.mem_keys, empty.1] at member
    cases member
  cases label with
  | store action =>
    cases action with
    | commit tag reply => exact fun _ => of_decide_eq_true checked
    | _ => trivial
  | leaveLoop => exact quiet (of_decide_eq_true checked)
  | disconnect => exact quiet (of_decide_eq_true checked)
  | crash => exact quiet (of_decide_eq_true checked)
  | _ => trivial

private def storing : List Label := [
  .publish (report "738065" 0), .deliver, .start, .enrich 0 (some none)]

theorem shutdown_clean_drained : ∃ s,
    Run (Meeting (Steps (next {} fun _ => true)) AcksInLoop) (initial .empty)
        (storing ++ stored 0 ++
          [.finish 0, .schedule 0, .settle 0, .signal, .leaveLoop, .close]) s ∧
      s.phase = .closed ∧ s.repository.commits.map Repository.Commit.call = [0] ∧
        NothingDuplicated s := by
  have passed : (replay (guarded (next {} fun _ => true) allHandled) (initial .empty)
      (storing ++ stored 0 ++ [.finish 0, .schedule 0, .settle 0, .signal, .leaveLoop, .close])).any
        (fun s => s.phase = .closed ∧ s.repository.commits.map Repository.Commit.call = [0]) =
          true := by decide
  obtain ⟨s, run, ended⟩ := run_of_test passed
  obtain ⟨closed, commits⟩ := of_decide_eq_true ended
  have run := run.of_guarded allHandled_sound
  exact ⟨s, run, closed, commits, shutdown_clean run⟩

/-- The signal arrives while the only worker is about to commit. -/
def busySchedule : List Label := storing ++ [
  .store (.acquire 0), .store (.upsert 0 .accepted 1735400021000000),
  .store (.append 0 .accepted 1735400021000000), .signal, .leaveLoop,
  .store (.commit 0 .accepted), .finish 0, .schedule 0, .close]

/-- The delivery is committed, its ack is never run, and the message is back in
the queue when `run` returns. -/
theorem busy_shutdown_duplicates :
    ¬ ∀ settings driver tables ls s, Run (Steps (next settings driver)) (initial tables) ls s →
      (∀ label ∈ ls, label ≠ .disconnect ∧ label ≠ .crash) → NothingDuplicated s := by
  intro clean
  have passed : (replay (next {} fun _ => true) (initial .empty) busySchedule).any
      (fun s => s.phase = .closed ∧ s.settled = [] ∧ s.repository.commits.length = 1) = true := by
    decide
  obtain ⟨s, run, ended⟩ := run_of_test passed
  obtain ⟨closed, settled, committed⟩ := of_decide_eq_true ended
  obtain ⟨commit, only⟩ := List.length_eq_one_iff.mp committed
  have duplicated := clean _ _ _ _ s run (by simp [busySchedule, storing])
  have acked := (duplicated.acked closed commit (by rw [only]; simp)).1
  rw [settled] at acked
  cases acked

end FlightHub.Consumer
