import FlightHub.Ingestion.Publisher
import Mathlib.Data.List.Perm.Basic

/-! How often the broker enqueues what `publish` was called with, over every
run. Every frame which was handed to a socket is enqueued, unread or dropped;
the outcome of a call says which of its two attempts handed a frame over; and
only a frame whose call returned, or is still at work, is unread. -/
namespace FlightHub
open Transition

namespace RabbitMQPublisher
variable {s t : State} {label : Label} {frame : Frame}

/-- The attempts of a call whose frames were handed to a socket. -/
def State.attempts (s : State) (call : Nat) : List Bool :=
  (s.handed.filter fun frame => frame.call = call).map Frame.again

/-- What may have been handed over before an attempt. -/
def Attempted (again : Bool) (earlier : List Bool) : Prop :=
  earlier = [] ∨ again = true ∧ earlier = [false]

theorem Attempted.sublist {again : Bool} {earlier : List Bool} (attempted : Attempted again earlier) :
    earlier.Sublist [false, true] ∧ (earlier ++ [again]).Sublist [false, true] := by
  rcases attempted with rfl | ⟨rfl, rfl⟩
  · cases again <;> decide
  · decide

def Outcome.Explains : Outcome → List Bool → Prop
  | .returned again, attempts => ∃ earlier, Attempted again earlier ∧ attempts = earlier ++ [again]
  | .raised, attempts => attempts.Sublist [false, true]

/-- The calls which are over, and the frames of all calls. -/
structure State.History (s : State) : Prop where
  finished : ∀ call (outcome : Outcome), s.outcomes[call]? = some outcome →
    outcome.Explains (s.attempts call)
  future : ∀ call, s.outcomes.length < call → s.attempts call = []
  carried : ∀ frame ∈ s.handed, s.messages[frame.call]? = some frame.message

/-- The frame belongs to the call which is at work. -/
structure State.Serves (s : State) (frame : Frame) : Prop where
  call : frame.call = s.outcomes.length
  count : s.messages.length = s.outcomes.length + 1
  message : s.messages[frame.call]? = some frame.message

def State.Current (s : State) : Prop :=
  match s.phase with
  | .idle | .connecting none _ =>
    s.messages.length = s.outcomes.length ∧ s.attempts s.outcomes.length = []
  | .connecting (some frame) _ | .sending frame =>
    s.Serves frame ∧ Attempted frame.again (s.attempts frame.call)
  | .sent frame => s.Serves frame ∧
      ∃ earlier, Attempted frame.again earlier ∧ s.attempts frame.call = earlier ++ [frame.again]

theorem State.Current.transfer (current : s.Current) (phase : t.phase = s.phase)
    (handed : t.handed = s.handed) (outcomes : t.outcomes = s.outcomes)
    (messages : t.messages = s.messages) : t.Current := by
  have attempts (call : Nat) : t.attempts call = s.attempts call := by
    rw [State.attempts, handed, State.attempts]
  have serves (frame : Frame) (serves : s.Serves frame) : t.Serves frame := by
    constructor
    · rw [outcomes, serves.call]
    · rw [outcomes, messages, serves.count]
    · rw [messages, serves.message]
  unfold State.Current at current ⊢
  rw [phase]
  split at current
  · simpa only [messages, outcomes, attempts] using current
  · simpa only [messages, outcomes, attempts] using current
  · exact ⟨serves _ current.1, attempts _ ▸ current.2⟩
  · exact ⟨serves _ current.1, attempts _ ▸ current.2⟩
  · exact ⟨serves _ current.1, attempts _ ▸ current.2⟩

structure State.Control (s : State) : Prop where
  history : s.History
  current : s.Current

theorem State.History.transfer (history : s.History) (handed : t.handed = s.handed)
    (outcomes : t.outcomes = s.outcomes) (messages : t.messages = s.messages) : t.History := by
  have attempts (call : Nat) : t.attempts call = s.attempts call := by
    rw [State.attempts, handed, State.attempts]
  constructor
  · intro call outcome ended
    rw [attempts]
    exact history.finished call outcome (outcomes ▸ ended)
  · intro call after
    rw [attempts]
    exact history.future call (outcomes ▸ after)
  · intro frame member
    rw [messages]
    exact history.carried frame (handed ▸ member)

theorem State.halfConnected_record (stage : Stage) (closed : Bool) :
    (s.halfConnected stage closed).handed = s.handed ∧
      (s.halfConnected stage closed).outcomes = s.outcomes ∧
      (s.halfConnected stage closed).messages = s.messages := by
  cases stage <;> exact ⟨rfl, rfl, rfl⟩

theorem State.History.halfConnected (history : s.History) (stage : Stage) (closed : Bool) :
    (s.halfConnected stage closed).History := by
  obtain ⟨handed, outcomes, messages⟩ := @State.halfConnected_record s stage closed
  exact history.transfer handed outcomes messages

theorem State.History.finish (history : s.History) {outcome : Outcome}
    (count : s.messages.length = s.outcomes.length + 1)
    (explains : outcome.Explains (s.attempts s.outcomes.length)) : (s.finish outcome).Control := by
  constructor
  · constructor
    · intro call other ended
      simp only [State.finish] at ended
      rcases Nat.lt_trichotomy call s.outcomes.length with before | rfl | after
      · rw [List.getElem?_append_left before] at ended
        exact history.finished call other ended
      · rw [List.getElem?_concat_length, Option.some.injEq] at ended
        exact ended ▸ explains
      · have outside : (s.outcomes ++ [outcome]).length ≤ call := by
          rw [List.length_append, List.length_singleton]
          exact after
        rw [List.getElem?_eq_none outside] at ended
        cases ended
    · intro call after
      apply history.future call
      simp only [State.finish, List.length_append, List.length_singleton] at after
      omega
    · exact history.carried
  · constructor
    · simpa only [State.finish, List.length_append, List.length_singleton] using count
    · apply history.future
      simp only [State.finish, List.length_append, List.length_singleton]
      omega

theorem State.History.called (history : s.History) (message : FlightMessage) :
    (s.called message).History where
  finished := history.finished
  future := history.future
  carried := by
    intro frame member
    have stored := history.carried frame member
    obtain ⟨bound, _⟩ := List.getElem?_eq_some_iff.mp stored
    simpa only [State.called, List.getElem?_append_left bound] using stored

/-- A call starts with its first frame, of which nothing was handed over. -/
theorem State.Control.serves_called (control : s.Control) (idle : s.phase = .idle)
    (message : FlightMessage) :
    (s.called message).Serves ⟨s.messages.length, false, message⟩ ∧
      s.attempts s.messages.length = [] := by
  have current := control.current
  simp only [State.Current, idle] at current
  obtain ⟨count, unsent⟩ := current
  refine ⟨⟨count, ?_, ?_⟩, ?_⟩
  · simp only [State.called, List.length_append, List.length_singleton, count]
  · simp only [State.called, List.getElem?_concat_length]
  · rw [count, unsent]

theorem State.attempts_hand (call : Nat) :
    (({ s with handed := s.handed ++ [frame] } : State)).attempts call =
      s.attempts call ++ if frame.call = call then [frame.again] else [] := by
  simp only [State.attempts, List.filter_append, List.map_append]
  by_cases own : frame.call = call <;> simp [own]

/-- A frame of the call at work joins what was handed over. -/
theorem State.History.hand (history : s.History) (serves : s.Serves frame) :
    ({ s with handed := s.handed ++ [frame] } : State).History where
  finished call outcome ended := by
    have before := (List.getElem?_eq_some_iff.mp ended).1
    have foreign : frame.call ≠ call := by
      rw [serves.call]
      exact Nat.ne_of_gt before
    rw [State.attempts_hand, if_neg foreign, List.append_nil]
    exact history.finished call outcome ended
  future call after := by
    have foreign : frame.call ≠ call := by
      rw [serves.call]
      exact Nat.ne_of_lt after
    rw [State.attempts_hand, if_neg foreign, List.append_nil]
    exact history.future call after
  carried other member := by
    rcases List.mem_append.mp member with earlier | own
    · exact history.carried other earlier
    · rw [List.mem_singleton.mp own]
      exact serves.message

theorem State.Control.sendFailed (history : s.History) (serves : s.Serves frame)
    (unsuccessful : (s.attempts frame.call).Sublist [false, true])
    (first : frame.again = false → Attempted true (s.attempts frame.call)) :
    (s.sendFailed frame).Control := by
  unfold State.sendFailed
  split
  · exact history.finish serves.count (serves.call ▸ unsuccessful)
  · next fresh =>
    refine ⟨history.transfer rfl rfl rfl, ?_⟩
    exact ⟨⟨serves.call, serves.count, serves.message⟩, first (eq_false_of_ne_true fresh)⟩

theorem State.Control.step (control : s.Control) (step : Step s label t) : t.Control := by
  obtain ⟨history, current⟩ := control
  cases step with
  | connect idle =>
    simp only [State.Current, idle] at current
    exact ⟨history.transfer rfl rfl rfl, current⟩
  | unconnected message idle =>
    obtain ⟨serves, unsent⟩ := State.Control.serves_called ⟨history, current⟩ idle message
    refine (history.called message).finish serves.count ?_
    have none_sent : (s.called message).attempts (s.called message).outcomes.length = [] := by
      rw [← serves.call]
      exact unsent
    rw [none_sent]
    exact List.nil_sublist _
  | reconnect message idle | begin message idle =>
    obtain ⟨serves, unsent⟩ := State.Control.serves_called ⟨history, current⟩ idle message
    have later := history.called message
    exact ⟨later.transfer rfl rfl rfl,
      ⟨serves.call, serves.count, serves.message⟩, .inl unsent⟩
  | ready connecting =>
    simp only [State.Current, connecting] at current
    exact ⟨history.transfer rfl rfl rfl, current⟩
  | proceed connecting =>
    simp only [State.Current, connecting] at current
    obtain ⟨serves, attempted⟩ := current
    exact ⟨history.transfer rfl rfl rfl,
      ⟨serves.call, serves.count, serves.message⟩, attempted⟩
  | @retry frame left stage closed connecting =>
    have kept := history.halfConnected stage closed
    refine ⟨kept.transfer rfl rfl rfl, ?_⟩
    cases frame with
    | none =>
      simp only [State.Current, connecting] at current
      cases stage <;> exact current
    | some frame =>
      simp only [State.Current, connecting] at current
      obtain ⟨⟨call, count, message⟩, attempted⟩ := current
      cases stage <;> exact ⟨⟨call, count, message⟩, attempted⟩
  | @giveUp frame left stage closed retryable connecting =>
    simp only [State.Current, connecting] at current
    obtain ⟨serves, attempted⟩ := current
    have kept := history.halfConnected stage closed
    have unsuccessful := serves.call ▸ attempted.sublist.1
    cases stage <;> exact kept.finish serves.count unsuccessful
  | @unready left stage closed retryable connecting =>
    have kept := history.halfConnected stage closed
    refine ⟨kept.transfer rfl rfl rfl, ?_⟩
    simp only [State.Current, connecting] at current
    cases stage <;> exact current
  | hand sending channel usable =>
    simp only [State.Current, sending] at current
    obtain ⟨serves, attempted⟩ := current
    have later := history.hand serves
    refine ⟨later.transfer rfl rfl rfl,
      ⟨serves.call, serves.count, serves.message⟩, _, attempted, ?_⟩
    exact (State.attempts_hand _).trans (by rw [if_pos rfl])
  | lost sending =>
    simp only [State.Current, sending] at current
    obtain ⟨serves, attempted⟩ := current
    apply State.Control.sendFailed history serves attempted.sublist.1
    intro fresh
    rw [fresh] at attempted
    exact .inl (attempted.resolve_right (by simp))
  | complete sent =>
    simp only [State.Current, sent] at current
    obtain ⟨serves, explained⟩ := current
    refine history.finish serves.count ?_
    rw [← serves.call]
    exact explained
  | fail sent channel unusable =>
    simp only [State.Current, sent] at current
    obtain ⟨serves, earlier, attempted, handed⟩ := current
    apply State.Control.sendFailed history serves (handed ▸ attempted.sublist.2)
    intro fresh
    rw [fresh] at attempted handed
    obtain rfl := attempted.resolve_right (by simp)
    exact .inr ⟨rfl, handed⟩
  | read member => exact ⟨history.transfer rfl rfl rfl, State.Current.transfer current rfl rfl rfl rfl⟩
  | lose opened => exact ⟨history.transfer rfl rfl rfl, State.Current.transfer current rfl rfl rfl rfl⟩
  | notice => exact ⟨history.transfer rfl rfl rfl, State.Current.transfer current rfl rfl rfl rfl⟩

/-- No frame is handed over but enqueued, dropped or still unread. -/
def State.Conserved (s : State) : Prop :=
  (s.queue ++ s.dropped ++ s.unread.map Prod.snd).Perm s.handed

theorem State.Conserved.halfConnected (conserved : s.Conserved) (stage : Stage) (closed : Bool) :
    (s.halfConnected stage closed).Conserved := by
  cases stage <;> exact conserved

theorem State.Conserved.sendFailed (conserved : s.Conserved) (frame : Frame) :
    (s.sendFailed frame).Conserved := by
  unfold State.sendFailed
  split <;> exact conserved

theorem State.Conserved.step (conserved : s.Conserved) (step : Step s label t) : t.Conserved := by
  cases step with
  | retry connecting => exact conserved.halfConnected _ _
  | giveUp connecting => exact conserved.halfConnected _ _
  | unready connecting => exact conserved.halfConnected _ _
  | lost sending => exact conserved.sendFailed _
  | fail sent channel unusable => exact conserved.sendFailed _
  | @hand frame link sending channel usable =>
    simp only [State.Conserved, List.map_append, List.map_cons, List.map_nil]
    rw [← List.append_assoc]
    exact conserved.append_right [frame]
  | @read link entry member =>
    have parts := (List.perm_cons_erase member).map Prod.snd
    simp only [State.Conserved, List.append_assoc] at conserved ⊢
    refine List.Perm.trans ?_ conserved
    apply List.Perm.append_left
    refine List.Perm.trans ?_ (List.Perm.append_left s.dropped parts.symm)
    rw [List.map_cons, List.singleton_append]
    exact List.perm_middle.symm
  | @lose link opened =>
    have parts := (List.filter_append_perm (fun entry => decide (entry.1 = link)) s.unread).map Prod.snd
    simp only [State.Conserved, List.append_assoc] at conserved ⊢
    refine List.Perm.trans ?_ conserved
    apply List.Perm.append_left
    apply List.Perm.append_left
    simpa only [List.map_append, decide_not] using parts
  | _ => exact conserved

/-- A frame which the broker may still read is on a usable connection, and its
attempt is at work there or has returned. -/
structure State.Waits (s : State) (link : Nat) (frame : Frame) : Prop where
  opened : link < s.opened
  usable : s.usable link = true
  owner : (s.phase = .sent frame ∧ s.channel = some link) ∨
    s.outcomes[frame.call]? = some (.returned frame.again)

def State.Flight (s : State) : Prop := ∀ link frame, (link, frame) ∈ s.unread → s.Waits link frame

theorem getElem?_of_grows {outcomes later : List Outcome} {call : Nat} {ended : Outcome}
    (grown : outcomes <+: later) (finished : outcomes[call]? = some ended) :
    later[call]? = some ended := by
  obtain ⟨bound, rfl⟩ := List.getElem?_eq_some_iff.mp finished
  exact List.prefix_iff_getElem?.mp grown call bound

/-- Every frame which may still be read is one of a call which returned. -/
def State.Settled (s : State) : Prop := ∀ link frame, (link, frame) ∈ s.unread →
  link < s.opened ∧ s.usable link = true ∧ s.outcomes[frame.call]? = some (.returned frame.again)

/-- What a step may add where it hands nothing over and loses nothing. -/
structure State.Grows (s t : State) : Prop where
  unread : ∀ entry ∈ t.unread, entry ∈ s.unread
  opened : s.opened ≤ t.opened
  usable : ∀ link < s.opened, s.usable link = true → t.usable link = true
  outcomes : s.outcomes <+: t.outcomes

theorem State.Settled.flight (settled : s.Settled) (grows : s.Grows t) : t.Flight := by
  intro link frame member
  obtain ⟨opened, usable, finished⟩ := settled link frame (grows.unread _ member)
  constructor
  · exact Nat.lt_of_lt_of_le opened grows.opened
  · exact grows.usable link opened usable
  · exact .inr (getElem?_of_grows grows.outcomes finished)

theorem State.Flight.settled (flight : s.Flight)
    (unsent : ∀ link frame, (link, frame) ∈ s.unread → ¬ (s.phase = .sent frame ∧ s.channel = some link)) :
    s.Settled := by
  intro link frame member
  obtain ⟨opened, usable, owner⟩ := flight link frame member
  exact ⟨opened, usable, owner.resolve_left (unsent link frame member)⟩

theorem State.Grows.refl (s : State) : s.Grows s :=
  ⟨fun _ member => member, Nat.le_refl _, fun _ _ usable => usable, List.prefix_rfl⟩

theorem State.Grows.finish (grows : s.Grows t) (outcome : Outcome) : s.Grows (t.finish outcome) where
  unread := grows.unread
  opened := grows.opened
  usable := grows.usable
  outcomes := grows.outcomes.trans (List.prefix_append _ _)

theorem State.Grows.sendFailed (frame : Frame) : s.Grows (s.sendFailed frame) := by
  have same := State.Grows.refl s
  unfold State.sendFailed
  split
  · exact same.finish .raised
  · exact ⟨same.unread, same.opened, same.usable, same.outcomes⟩

/-- A connection which is opened leaves the earlier ones as they are. -/
theorem usable_update (value : Bool) :
    ∀ link < s.opened, s.usable link = true → Function.update s.usable s.opened value link = true := by
  intro link opened usable
  rw [Function.update_of_ne (Nat.ne_of_lt opened), usable]

theorem State.Grows.halfConnected (stage : Stage) (closed : Bool) :
    s.Grows (s.halfConnected stage closed) := by
  cases stage with
  | connection => exact .refl s
  | channel | topology => exact ⟨fun _ member => member, Nat.le_succ _, usable_update false, List.prefix_rfl⟩

/-- The channel belongs to a connection which was opened. -/
def State.Opened (s : State) : Prop := ∀ link, s.channel = some link → link < s.opened

theorem State.Opened.step (opened : s.Opened) (step : Step s label t) : t.Opened := by
  have halfConnected (stage : Stage) (closed : Bool) : (s.halfConnected stage closed).Opened := by
    intro link channel
    cases stage with
    | connection => exact opened link channel
    | channel => exact Nat.lt_succ_of_lt (opened link channel)
    | topology =>
      cases channel
      exact Nat.lt_succ_self _
  have sendFailed (frame : Frame) : (s.sendFailed frame).Opened := by
    unfold State.sendFailed
    split <;> exact opened
  cases step with
  | ready connecting | proceed connecting =>
    intro link channel
    cases channel
    exact Nat.lt_succ_self _
  | retry connecting | giveUp connecting | unready connecting => exact halfConnected _ _
  | lost sending => exact sendFailed _
  | fail sent channel unusable => exact sendFailed _
  | _ => exact opened

theorem State.Flight.step (flight : s.Flight) (control : s.Control) (opens : s.Opened)
    (step : Step s label t) : t.Flight := by
  have settled (unsent : ∀ frame, s.phase ≠ .sent frame) : s.Settled :=
    flight.settled fun _ frame _ owner => unsent frame owner.1
  have same := State.Grows.refl s
  cases step with
  | connect idle | reconnect message idle | begin message idle =>
    exact (settled (by simp [idle])).flight ⟨same.unread, same.opened, same.usable, same.outcomes⟩
  | unconnected message idle =>
    have called : s.Grows (s.called message) := ⟨same.unread, same.opened, same.usable, same.outcomes⟩
    exact (settled (by simp [idle])).flight (called.finish .raised)
  | ready connecting | proceed connecting =>
    exact (settled (by simp [connecting])).flight
      ⟨same.unread, Nat.le_succ _, usable_update true, same.outcomes⟩
  | @giveUp waiting left stage closed retryable connecting =>
    have grows := @State.Grows.halfConnected s stage closed
    exact (settled (by simp [connecting])).flight (grows.finish .raised)
  | @retry waiting left stage closed connecting | @unready left stage closed retryable connecting =>
    have grows := @State.Grows.halfConnected s stage closed
    exact (settled (by simp [connecting])).flight
      ⟨grows.unread, grows.opened, grows.usable, grows.outcomes⟩
  | @hand own link sending channel usable =>
    intro other frame member
    rcases List.mem_append.mp member with before | last
    · obtain ⟨opened, usable, finished⟩ := settled (by simp [sending]) other frame before
      exact ⟨opened, usable, .inr finished⟩
    · cases List.mem_singleton.mp last
      exact ⟨opens link channel, usable, .inl ⟨rfl, channel⟩⟩
  | lost sending => exact (settled (by simp [sending])).flight (State.Grows.sendFailed _)
  | @complete own sent =>
    have current := control.current
    simp only [State.Current, sent] at current
    intro link frame member
    obtain ⟨opened, usable, owner⟩ := flight link frame member
    refine ⟨opened, usable, .inr ?_⟩
    rcases owner with ⟨at_work, _⟩ | finished
    · cases sent.symm.trans at_work
      simp only [State.finish, current.1.call, List.getElem?_concat_length]
    · exact getElem?_of_grows (List.prefix_append _ _) finished
  | @fail own link sent channel unusable =>
    refine (flight.settled ?_).flight (State.Grows.sendFailed _)
    rintro other frame member ⟨_, same⟩
    cases channel.symm.trans same
    exact absurd (flight link frame member).usable (by simp [unusable])
  | read member =>
    intro link frame unread
    obtain ⟨opened, usable, owner⟩ := flight link frame (List.mem_of_mem_erase unread)
    exact ⟨opened, usable, owner⟩
  | @lose link _ =>
    intro other frame member
    obtain ⟨unread, kept⟩ := List.mem_filter.mp member
    obtain ⟨opened, usable, owner⟩ := flight other frame unread
    refine ⟨opened, ?_, owner⟩
    exact (Function.update_of_ne (of_decide_eq_true kept) _ _).trans usable
  | notice =>
    intro link frame member
    obtain ⟨opened, usable, owner⟩ := flight link frame member
    exact ⟨opened, usable, owner⟩

structure State.Tracked (s : State) : Prop where
  control : s.Control
  conserved : s.Conserved
  opened : s.Opened
  flight : s.Flight

theorem State.Tracked.step (tracked : s.Tracked) (step : Step s label t) : t.Tracked where
  control := tracked.control.step step
  conserved := tracked.conserved.step step
  opened := tracked.opened.step step
  flight := tracked.flight.step tracked.control tracked.opened step

theorem initial_tracked : State.Tracked {} where
  control :=
    ⟨⟨fun _ _ ended => by simp at ended, fun _ _ => rfl, fun _ member => absurd member List.not_mem_nil⟩,
      rfl, rfl⟩
  conserved := .nil
  opened _ channel := by cases channel
  flight _ _ member := absurd member List.not_mem_nil

theorem run_tracked {ls : List Label} (run : Run (Steps next) {} ls s) : s.Tracked :=
  run.invariant (fun tracked moved => tracked.step (next_step moved)) initial_tracked

/-- How many of the frames are those of one attempt of a call. -/
def tally (frames : List Frame) (call : Nat) (again : Bool) : Nat :=
  frames.countP fun frame => frame.call = call && frame.again = again

def State.waiting (s : State) : List Frame := s.unread.map Prod.snd

/-- The copies of a call's message which are enqueued, or will be unless their
connection is lost. -/
def State.copies (s : State) (call : Nat) : Nat :=
  (s.queue ++ s.waiting).countP fun frame => frame.call = call

theorem countP_call (frames : List Frame) (call : Nat) :
    frames.countP (fun frame => decide (frame.call = call)) =
      tally frames call false + tally frames call true := by
  induction frames with
  | nil => rfl
  | cons frame frames ih =>
    simp only [tally, List.countP_cons] at ih ⊢
    rw [ih]
    by_cases own : frame.call = call <;> cases frame.again <;> simp [own] <;> omega

theorem State.copies_eq (s : State) (call : Nat) :
    s.copies call = tally s.queue call false + tally s.queue call true +
      (tally s.waiting call false + tally s.waiting call true) := by
  rw [State.copies, List.countP_append, countP_call, countP_call]

theorem tally_handed (call : Nat) (again : Bool) :
    tally s.handed call again = (s.attempts call).count again := by
  rw [State.attempts, List.count, List.countP_map, List.countP_filter, tally]
  congr 1
  funext frame
  simp only [Function.comp_apply, Bool.and_comm, Bool.beq_eq_decide_eq]

theorem State.Conserved.tally_eq (conserved : s.Conserved) (call : Nat) (again : Bool) :
    tally s.queue call again + tally s.dropped call again +
      tally s.waiting call again = (s.attempts call).count again := by
  rw [← tally_handed]
  simp only [tally, ← List.countP_append]
  exact conserved.countP_eq _

/-- The frames of the returning attempt which were lost with their connection
before the broker read them. -/
def State.lost (s : State) (call : Nat) (again : Bool) : Nat := tally s.dropped call again

/-- The frames of a first attempt which raised after the broker had enqueued them. -/
def State.repeated (s : State) (call : Nat) (again : Bool) : Nat :=
  if again then tally s.queue call false else 0

theorem State.Tracked.waiting_call (tracked : s.Tracked) {call : Nat} {outcome : Outcome} {again : Bool}
    (ended : s.outcomes[call]? = some outcome) (other : outcome ≠ .returned again) :
    tally s.waiting call again = 0 := by
  rw [tally, List.countP_eq_zero]
  intro frame member matches_attempt
  obtain ⟨⟨link, frame⟩, unread, rfl⟩ := List.mem_map.mp member
  rw [Bool.and_eq_true, decide_eq_true_eq, decide_eq_true_eq] at matches_attempt
  obtain ⟨rfl, rfl⟩ := matches_attempt
  rcases (tracked.flight link frame unread).owner with ⟨sent, _⟩ | returned
  · have current := tracked.control.current
    simp only [State.Current, sent] at current
    obtain ⟨bound, _⟩ := List.getElem?_eq_some_iff.mp ended
    exact absurd current.1.call (Nat.ne_of_lt bound)
  · exact other (Option.some.inj (ended.symm.trans returned))

theorem State.Tracked.returned_accounted (tracked : s.Tracked) {call : Nat} {again : Bool}
    (ended : s.outcomes[call]? = some (.returned again)) :
    s.copies call + s.lost call again = 1 + s.repeated call again ∧
      s.lost call again ≤ 1 ∧ s.repeated call again ≤ 1 := by
  obtain ⟨earlier, attempted, handed⟩ := tracked.control.history.finished call _ ended
  have first := tracked.conserved.tally_eq call false
  have second := tracked.conserved.tally_eq call true
  rw [handed] at first second
  rw [State.copies_eq, State.lost, State.repeated]
  cases again with
  | false =>
    -- only the first attempt was made
    obtain rfl := attempted.resolve_right (by simp)
    have idle : tally s.waiting call true = 0 := tracked.waiting_call ended (by simp)
    have once : ([] ++ [false]).count false = 1 ∧ ([] ++ [false]).count true = 0 := by decide
    simp only [Bool.false_eq_true, if_false]
    omega
  | true =>
    have idle : tally s.waiting call false = 0 := tracked.waiting_call ended (by simp)
    have once : (earlier ++ [true]).count false ≤ 1 := attempted.sublist.2.count_le false
    have again : (earlier ++ [true]).count true = 1 := by
      rcases attempted with rfl | ⟨_, rfl⟩ <;> rfl
    simp only [if_true]
    omega

theorem State.Tracked.raised_accounted (tracked : s.Tracked) {call : Nat}
    (ended : s.outcomes[call]? = some .raised) :
    s.copies call = tally s.queue call false + tally s.queue call true ∧
      tally s.queue call false ≤ 1 ∧ tally s.queue call true ≤ 1 := by
  have handed : (s.attempts call).Sublist [false, true] :=
    tracked.control.history.finished call _ ended
  have first := tracked.conserved.tally_eq call false
  have second := tracked.conserved.tally_eq call true
  have first_once := handed.count_le false
  have second_once := handed.count_le true
  have first_idle : tally s.waiting call false = 0 := tracked.waiting_call ended (by simp)
  have second_idle : tally s.waiting call true = 0 := tracked.waiting_call ended (by simp)
  have single : [false, true].count false = 1 ∧ [false, true].count true = 1 := by decide
  rw [State.copies_eq]
  omega

/-- A call which returned is enqueued once, less the frame which its returning
attempt lost, and once more where its first attempt raised after the broker had
enqueued the frame; a call which raised is enqueued once for each attempt which
did so. What is enqueued is the message of the call. -/
structure State.Accounted (s : State) : Prop where
  returned : ∀ call again, s.outcomes[call]? = some (.returned again) →
    s.copies call + s.lost call again = 1 + s.repeated call again ∧
      s.lost call again ≤ 1 ∧ s.repeated call again ≤ 1
  raised : ∀ call, s.outcomes[call]? = some .raised →
    s.copies call = tally s.queue call false + tally s.queue call true ∧
      tally s.queue call false ≤ 1 ∧ tally s.queue call true ≤ 1
  message : ∀ frame ∈ s.queue, s.messages[frame.call]? = some frame.message

theorem delivery_accounted {ls : List Label} (run : Run (Steps next) {} ls s) : s.Accounted := by
  have tracked := run_tracked run
  constructor
  · intro call again ended
    exact tracked.returned_accounted ended
  · intro call ended
    exact tracked.raised_accounted ended
  · intro frame member
    apply tracked.control.history.carried
    apply tracked.conserved.subset
    exact List.mem_append_left _ (List.mem_append_left _ member)

def sighting : FlightMessage where
  state := { icao24 := "4ca7b3", originCountry := "Israel" }
  fetchedAt := ⟨1735407200000000, by decide, by decide⟩

/-- The connection is lost before the first frame is sent; the second attempt returns. -/
def lostBefore : List Label := [
  .connect, .ready, .publish sighting, .lose 0, .send, .refuse .connection true true, .ready, .send,
  .read 1, .complete]

/-- The connection is lost after the publisher's call returned. -/
def lostUnread : List Label := [
  .connect, .ready, .publish sighting, .send, .complete, .lose 0]

/-- The connection is lost after the broker enqueued the frame and before
`basic_publish` returned. -/
def lostReply : List Label := [
  .connect, .ready, .publish sighting, .send, .read 0, .lose 0, .fail, .ready]

def State.ends (s : State) (outcome : Outcome) (copies : Nat) : Bool :=
  s.outcomes = [outcome] && s.unread = [] && s.copies 0 = copies

theorem delivery_accounted_reconnect : ∃ s, Run (Steps next) {} lostBefore s ∧
    s.ends (.returned true) 1 = true ∧ s.Accounted := by
  have passed : (replay next {} lostBefore).any (State.ends · (.returned true) 1) = true := by
    decide +kernel
  obtain ⟨s, run, ended⟩ := run_of_test passed
  exact ⟨s, run, ended, delivery_accounted run⟩

/-- A message whose call returned may be enqueued never or twice, and one whose
call raised twice. -/
theorem lost_and_duplicated :
    (¬ ∀ ls s, Run (Steps next) {} ls s → s.unread = [] →
      (∀ call again, s.outcomes[call]? = some (.returned again) → s.copies call = 1) ∧
        ∀ call, s.outcomes[call]? = some .raised → s.copies call ≤ 1) ∧
    (∃ ls s, Run (Steps next) {} ls s ∧ s.ends (.returned true) 2 = true) ∧
    ∃ ls s, Run (Steps next) {} ls s ∧ s.ends .raised 2 = true := by
  refine ⟨fun delivers => ?_, ?_, ?_⟩
  · have passed : (replay next {} lostUnread).any (State.ends · (.returned false) 0) = true := by
      decide +kernel
    obtain ⟨s, run, ended⟩ := run_of_test passed
    simp only [State.ends, Bool.and_eq_true, decide_eq_true_eq] at ended
    obtain ⟨⟨outcomes, unread⟩, copies⟩ := ended
    have once := (delivers _ s run unread).1 0 false (by rw [outcomes]; rfl)
    rw [copies] at once
    exact absurd once (by decide)
  · have passed : (replay next {} (lostReply ++ [.send, .complete, .read 1])).any
        (State.ends · (.returned true) 2) = true := by decide +kernel
    exact ⟨_, run_of_test passed⟩
  · have passed : (replay next {} (lostReply ++ [.send, .read 1, .lose 1, .fail])).any
        (State.ends · .raised 2) = true := by decide +kernel
    exact ⟨_, run_of_test passed⟩

end RabbitMQPublisher
end FlightHub
