import FlightHub.Consumer.Order
import FlightHub.Consumer.Progress

/-! One process of the consumer with one worker thread. Nothing is delivered
twice in it, the worker takes the deliveries in turn, and so the messages are
committed in the order in which they were published. -/
namespace FlightHub.Consumer
open Postgres Transition
variable {settings : Settings} {driver : Driver} {tables : Database} {s t : State} {label : Label}

/-- The steps of one process, to its end and after it. -/
def OneProcess (_ : State) (label : Label) : Prop := label ≠ .restart

/-- No delivery has been made twice. -/
structure Fresh (s : State) : Prop where
  deliveries : s.deliveries = List.range s.deliveries.length
  queue : s.phase = .consuming → s.deliveries ++ s.queue = List.range s.published.length

theorem initial_fresh (tables : Database) : Fresh (initial tables) where
  deliveries := rfl
  queue _ := rfl

namespace Fresh

theorem message (fresh : Fresh s) {tag : Tag} (delivered : tag < s.deliveries.length) :
    s.message tag = tag := by
  rw [State.message, List.getD_eq_getElem _ _ delivered, List.getElem_of_eq fresh.deliveries,
    List.getElem_range]

/-- Between a delivery and the next, `consuming` can only end. -/
theorem kept (fresh : Fresh s) (deliveries : t.deliveries = s.deliveries) (queue : t.queue = s.queue)
    (published : t.published = s.published) (phase : t.phase = .consuming → s.phase = .consuming) :
    Fresh t := by
  constructor
  · rw [deliveries]
    exact fresh.deliveries
  · intro consuming
    rw [deliveries, queue, published]
    exact fresh.queue (phase consuming)

theorem step (fresh : Fresh s) (step : Step settings driver s label t) (one : OneProcess s label) :
    Fresh t := by
  have ended {u : State} (deliveries : u.deliveries = s.deliveries) (outside : u.phase ≠ .consuming) :
      Fresh u := by
    constructor
    · rw [deliveries]
      exact fresh.deliveries
    · intro consuming
      exact absurd consuming outside
  cases step with
  | publish body =>
    constructor
    · exact fresh.deliveries
    · intro consuming
      rw [← List.append_assoc, fresh.queue consuming, List.length_append, List.length_singleton,
        List.range_succ]
  | @deliver id queue next_up consuming _ =>
    have whole := fresh.queue consuming
    rw [next_up] at whole
    have turn : id = s.deliveries.length := by
      have bound : s.deliveries.length < (s.deliveries ++ id :: queue).length := by
        rw [List.length_append, List.length_cons]
        omega
      have at_end := List.getElem_of_eq whole bound
      simpa using at_end
    constructor
    · simp only [State.onMessage, List.length_append, List.length_singleton, List.range_succ, turn]
      rw [← fresh.deliveries]
    · intro _
      simpa [State.onMessage] using whole
  | schedule _ =>
    unfold State.addCallback
    split
    · exact fresh.kept rfl rfl rfl id
    · exact fresh.kept rfl rfl rfl id
  | signal _ => exact ended rfl (by simp)
  | leaveLoop _ => exact ended rfl (by simp)
  | close _ _ _ => exact ended rfl (by simp [State.exit])
  | disconnect _ => exact ended rfl (by simp [State.disconnected])
  | crash _ => exact ended rfl (by simp [State.exit])
  | restart _ => exact absurd rfl one
  | _ => exact fresh.kept rfl rfl rfl id

end Fresh

theorem run_fresh {ls : List Label}
    (run : Run (Meeting (Steps (next settings driver)) OneProcess) (initial tables) ls s) : Fresh s :=
  run.invariant (fun fresh moved => fresh.step (next_step moved.1) moved.2) (initial_fresh tables)

/-- The deliveries which the worker has not finished, in the order in which it takes them. -/
def State.line (s : State) : List Tag := s.running.keys ++ s.executor

/-- The commits are those of the deliveries before the line, in its order. -/
structure InTurn (s : State) : Prop where
  single : s.running.keys.length ≤ 1
  line : s.line.Pairwise (· < ·)
  passed : ∀ commit ∈ s.repository.commits, ∀ tag ∈ s.line, commit.call ≤ tag
  ordered : (s.repository.commits.map Repository.Commit.call).Pairwise (· ≤ ·)

theorem initial_inTurn (tables : Database) : InTurn (initial tables) where
  single := Nat.zero_le _
  line := .nil
  passed _ member := by cases member
  ordered := .nil

namespace InTurn

theorem keys (turn : InTurn s) {tag : Tag} {work : Work} (found : s.running.lookup tag = some work) :
    s.running.keys = [tag] := by
  have member := mem_keys_of_lookup found
  have single := turn.single
  match keys : s.running.keys with
  | [] =>
    rw [keys] at member
    cases member
  | [own] =>
    rw [keys] at member
    rw [List.mem_singleton.mp member]
  | _ :: _ :: _ =>
    rw [keys] at single
    simp at single

/-- The line only gets shorter. -/
theorem shorter (turn : InTurn s) (line : t.line.Sublist s.line) (single : t.running.keys.length ≤ 1)
    (commits : t.repository.commits = s.repository.commits) : InTurn t where
  single := single
  line := turn.line.sublist line
  passed := by
    rw [commits]
    intro commit member tag waiting
    exact turn.passed commit member tag (line.subset waiting)
  ordered := commits ▸ turn.ordered

/-- The delivery at work is the first in the line. -/
theorem worked (turn : InTurn s) {tag : Tag} {before : Work}
    (found : s.running.lookup tag = some before) (work : Work)
    (line : t.line = (s.work tag work).running.keys ++ s.executor)
    (keys : t.running.keys = (s.work tag work).running.keys)
    (commits : t.repository.commits = s.repository.commits) : InTurn t := by
  have own : (s.work tag work).running.keys = [tag] := by
    rw [State.work, AList.keys_insert, turn.keys found, List.erase_cons_head]
  refine turn.shorter ?_ ?_ commits
  · rw [line, own, State.line, turn.keys found]
  · rw [keys, own, List.length_singleton]

/-- Only the delivery at work has a call in progress. -/
theorem first (turn : InTurn s) (storing : s.Storing) {tag : Tag} {flight : EnrichedFlight}
    (known : (s.repository.calls tag).flight = some flight) :
    tag ∈ s.line ∧ ∀ other ∈ s.line, tag ≤ other := by
  have keys := turn.keys (storing tag flight known)
  have line := turn.line
  simp only [State.line, keys, List.singleton_append, List.pairwise_cons] at line ⊢
  refine ⟨List.mem_cons_self, ?_⟩
  intro other member
  rcases List.mem_cons.mp member with rfl | later
  · exact Nat.le_refl _
  · exact Nat.le_of_lt (line.1 other later)

theorem step (turn : InTurn s) (one : settings.consumerWorkerThreads = 1) (custody : Custody s)
    (tracked : Tracked driver tables s) (storing : s.Storing)
    (step : Step settings driver s label t) : InTurn t := by
  have commits := step.commits
  cases step with
  | @deliver id queue _ _ _ =>
    have new : ∀ tag ∈ s.line, tag < s.deliveries.length := by
      intro tag waiting
      apply custody.delivered
      simp only [State.held, List.append_assoc, List.mem_append]
      rcases List.mem_append.mp waiting with running | queued
      · exact .inr (.inl running)
      · exact .inl queued
    have line : ({ s with queue }.onMessage id).line = s.line ++ [s.deliveries.length] := by
      simp [State.line, State.onMessage]
    constructor
    · exact turn.single
    · rw [line]
      refine List.pairwise_append.mpr ⟨turn.line, List.pairwise_singleton _ _, ?_⟩
      intro tag waiting last own
      rw [List.mem_singleton.mp own]
      exact new tag waiting
    · rw [line]
      intro commit member tag waiting
      rcases List.mem_append.mp waiting with before | last
      · exact turn.passed commit member tag before
      · rw [List.mem_singleton.mp last]
        exact Nat.le_of_lt (tracked.committed commit member).published.1
    · exact turn.ordered
  | @start tag executor first _ idle =>
    rw [one, Nat.lt_one_iff, List.length_eq_zero_iff] at idle
    have keys : ({ s with executor }.work tag .received).running.keys = [tag] := by
      simp [State.work, AList.keys_insert, idle]
    refine turn.shorter ?_ (by rw [keys, List.length_singleton]) rfl
    rw [State.line, keys, State.line, idle, first]
    exact .refl _
  | failed found _ => exact turn.worked found _ rfl rfl rfl
  | enriched found _ _ =>
    refine turn.worked found .storing rfl rfl ?_
    rcases commits with same | ⟨_, _, _, _, other, _⟩
    · exact same
    · cases other
  | @store action repository _ _ _ =>
    rcases commits with same | ⟨tag, _, flight, _, _, _, known, grown⟩
    · exact turn.shorter (.refl _) turn.single same
    · obtain ⟨own, least⟩ := turn.first storing known
      refine ⟨turn.single, turn.line, ?_, ?_⟩
      · rw [grown]
        intro commit member other waiting
        rcases List.mem_append.mp member with before | last
        · exact turn.passed commit before other waiting
        · rw [List.mem_singleton.mp last]
          exact least other waiting
      · rw [grown, List.map_append]
        refine List.pairwise_append.mpr ⟨turn.ordered, List.pairwise_singleton _ _, ?_⟩
        intro call member last equal
        obtain ⟨commit, before, rfl⟩ := List.mem_map.mp member
        rw [List.mem_singleton.mp equal]
        exact turn.passed commit before tag own
  | returned found _ => exact turn.worked found _ rfl rfl rfl
  | raised found _ => exact turn.worked found _ rfl rfl rfl
  | @schedule tag ok found =>
    have keys : (s.running.erase tag).keys = [] := by
      rw [AList.keys_erase, turn.keys found, List.erase_cons_head]
    have left : ((s.running.erase tag).keys ++ s.executor).Sublist s.line := by
      rw [keys, List.nil_append]
      exact List.sublist_append_right _ _
    unfold State.addCallback
    split
    · exact turn.shorter left (by simp [keys]) rfl
    · exact turn.shorter left (by simp [keys]) rfl
  | close _ _ _ => exact turn.shorter (List.nil_sublist _) (Nat.zero_le _) rfl
  | crash _ => exact turn.shorter (List.nil_sublist _) (Nat.zero_le _) rfl
  | _ => exact turn.shorter (.refl _) turn.single rfl

end InTurn

/-- What holds in every state of one process with one worker. -/
structure Sequential (driver : Driver) (tables : Database) (s : State) : Prop where
  custody : Custody s
  tracked : Tracked driver tables s
  engaged : Engaged s
  fresh : Fresh s
  turn : InTurn s

theorem run_sequential {ls : List Label} (one : settings.consumerWorkerThreads = 1)
    (run : Run (Meeting (Steps (next settings driver)) OneProcess) (initial tables) ls s) :
    Sequential driver tables s := by
  induction run with
  | refl =>
    exact ⟨initial_custody tables, initial_tracked driver tables, initial_engaged tables,
      initial_fresh tables, initial_inTurn tables⟩
  | next _ moved ih =>
    obtain ⟨custody, tracked, engaged, fresh, turn⟩ := ih
    have step := next_step moved.1
    exact ⟨custody.step step, tracked.step step, engaged.step custody step,
      fresh.step step moved.2, turn.step one custody tracked engaged.storing step⟩

/-- The row of an aircraft is that of the commit about it which came last. -/
theorem Tracked.current_last (tracked : Tracked driver .empty s) (icao24 : String) :
    s.repository.session.committed.current (.text icao24) =
      ((s.repository.commits.filter fun commit => commit.flight.icao24 = icao24).getLast?).map
        fun commit => commit.flight.modelDump := by
  rw [tracked.repository.committed, (Repository.serial_represents _).current,
    Ledger.latest_recordAll, List.filter_map, List.getLast?_map, Option.map_map]
  rfl

/-- The messages are committed in the order of their publication, none of them
twice, and the row of an aircraft is that of the last one about it. -/
structure InSequence (s : State) : Prop where
  ascending : (s.repository.commits.map fun commit => s.message commit.call).Pairwise (· < ·)
  newest : ∀ icao24 row, s.repository.session.committed.current (.text icao24) = some row →
    ∃ commit ∈ s.repository.commits, commit.flight.icao24 = icao24 ∧ row = commit.flight.modelDump ∧
      ∀ other ∈ s.repository.commits, other.flight.icao24 = icao24 →
        s.message other.call ≤ s.message commit.call

/-- Without redelivery a commit is that of the message with the number of its call. -/
theorem Fresh.commits (fresh : Fresh s) (tracked : Tracked driver tables s) :
    (s.repository.commits.map fun commit => s.message commit.call) =
      s.repository.commits.map Repository.Commit.call := by
  refine List.map_congr_left ?_
  intro commit member
  exact fresh.message (tracked.committed commit member).published.1

theorem Sequential.ascending (sequential : Sequential driver tables s) :
    (s.repository.commits.map fun commit => s.message commit.call).Pairwise (· < ·) := by
  rw [sequential.fresh.commits sequential.tracked]
  refine List.Pairwise.imp₂ ?_ sequential.turn.ordered sequential.tracked.repository.once
  intro earlier later order apart
  exact Nat.lt_of_le_of_ne order apart

theorem last_greatest {α : Type*} {stamp : α → Nat} {entries : List α} {last : α}
    (ascending : (entries.map stamp).Pairwise (· < ·)) (found : entries.getLast? = some last) :
    ∀ other ∈ entries, stamp other ≤ stamp last := by
  induction entries using List.reverseRecOn with
  | nil => cases found
  | append_singleton entries entry _ =>
    rw [List.getLast?_concat, Option.some.injEq] at found
    subst found
    rw [List.map_append, List.pairwise_append] at ascending
    intro other member
    rcases List.mem_append.mp member with before | own
    · exact Nat.le_of_lt (ascending.2.2 _ (List.mem_map_of_mem before) _ (by simp))
    · rw [List.mem_singleton.mp own]

theorem Sequential.inSequence (sequential : Sequential driver .empty s) : InSequence s := by
  refine ⟨sequential.ascending, ?_⟩
  intro icao24 row found
  rw [sequential.tracked.current_last] at found
  obtain ⟨commit, last, rfl⟩ := Option.map_eq_some_iff.mp found
  have ascending : ((s.repository.commits.filter fun commit =>
      commit.flight.icao24 = icao24).map fun commit => s.message commit.call).Pairwise (· < ·) :=
    sequential.ascending.sublist (List.filter_sublist.map _)
  have member := List.mem_filter.mp (List.mem_of_getLast? last)
  refine ⟨commit, member.1, of_decide_eq_true member.2, rfl, ?_⟩
  intro other committed same
  exact last_greatest ascending last other (List.mem_filter.mpr ⟨committed, decide_eq_true same⟩)

/-- With one worker thread a process of the consumer commits in publication
order, whatever raises, however the connections end and whatever is refused. -/
theorem single_worker_in_order {ls : List Label} (one : settings.consumerWorkerThreads = 1)
    (run : Run (Meeting (Steps (next settings driver)) OneProcess) (initial .empty) ls s) :
    InSequence s :=
  (run_sequential one run).inSequence

def Label.inProcess : Label → Bool
  | .restart => false
  | _ => true

theorem Label.inProcess_sound (s : State) (label : Label) (checked : label.inProcess = true) :
    OneProcess s label := by
  rintro rfl
  cases checked

/-- Two messages about one aircraft, of which the second waits for the worker. -/
def queuedSchedule : List Label := [
    .publish (report "738065" 0), .publish (report "738065" 12), .deliver, .deliver, .start,
    .enrich 0 (some none)] ++ stored 0 ++ [.finish 0, .schedule 0, .settle 0, .start,
    .enrich 1 (some none)] ++ stored 1

theorem single_worker_in_order_queued : ∃ s,
    Run (Meeting (Steps (next { consumerWorkerThreads := 1 } fun _ => true)) OneProcess)
      (initial .empty) queuedSchedule s ∧
        (s.repository.commits.map fun commit => s.message commit.call) = [0, 1] ∧ InSequence s := by
  have passed : (replay (guarded (next { consumerWorkerThreads := 1 } fun _ => true)
      fun _ label => label.inProcess) (initial .empty) queuedSchedule).any
        (fun s => (s.repository.commits.map fun commit => s.message commit.call) = [0, 1]) = true := by
    decide
  obtain ⟨s, run, order⟩ := run_of_test passed
  have run := run.of_guarded Label.inProcess_sound
  exact ⟨s, run, of_decide_eq_true order, single_worker_in_order rfl run⟩

end FlightHub.Consumer
