import FlightHub.Ingestion.Delivery
import FlightHub.Transition.Measure

/-! One call of `publish` from its start to its end: what it leaves untouched,
and how many steps of its own it takes at most, whatever the broker and the
network do between them. -/
namespace FlightHub.RabbitMQPublisher
open Transition
variable {s t : State} {label : Label}

/-- The calls which the service makes itself. -/
def Label.isCall : Label → Bool
  | .connect | .publish _ => true
  | _ => false

theorem State.halfConnected_outcomes (s : State) (stage : Stage) (closed : Bool) :
    (s.halfConnected stage closed).outcomes = s.outcomes := by
  cases stage <;> rfl

theorem State.halfConnected_messages (s : State) (stage : Stage) (closed : Bool) :
    (s.halfConnected stage closed).messages = s.messages := by
  cases stage <;> rfl

theorem Step.outcomes_grow (step : Step s label t) : s.outcomes <+: t.outcomes := by
  cases step with
  | unconnected _ _ => exact List.prefix_append _ _
  | retry _ => exact List.prefix_rfl.trans (State.halfConnected_outcomes s _ _ ▸ List.prefix_rfl)
  | giveUp _ =>
    rw [State.finish, State.halfConnected_outcomes]
    exact List.prefix_append _ _
  | unready _ => exact List.prefix_rfl.trans (State.halfConnected_outcomes s _ _ ▸ List.prefix_rfl)
  | lost _ | fail _ _ _ =>
    unfold State.sendFailed
    split
    · exact List.prefix_append _ _
    · exact List.prefix_rfl
  | complete _ => exact List.prefix_append _ _
  | _ => exact List.prefix_rfl

theorem Step.messages_kept (step : Step s label t) (own : label.isCall = false) :
    t.messages = s.messages := by
  cases step with
  | connect _ | unconnected _ _ | reconnect _ _ | begin _ _ => cases own
  | retry _ => exact State.halfConnected_messages s _ _
  | giveUp _ => exact State.halfConnected_messages s _ _
  | unready _ => exact State.halfConnected_messages s _ _
  | lost _ | fail _ _ _ =>
    unfold State.sendFailed
    split <;> rfl
  | _ => rfl

/-- Between two calls only the broker and the network act. -/
theorem Step.idle_kept (step : Step s label t) (own : label.isCall = false)
    (idle : s.phase = .idle) : t.phase = .idle ∧ t.opened = s.opened := by
  have apart {phase : Phase} (here : s.phase = phase) (other : phase ≠ .idle) :
      t.phase = .idle ∧ t.opened = s.opened := absurd (here.symm.trans idle) other
  cases step with
  | connect _ | unconnected _ _ | reconnect _ _ | begin _ _ => cases own
  | ready here | retry here | giveUp here | unready here => exact apart here nofun
  | proceed here => exact apart here nofun
  | hand here _ _ | lost here | complete here | fail here _ _ => exact apart here nofun
  | read _ | lose _ | notice => exact ⟨idle, rfl⟩

theorem Step.publish {message : FlightMessage} (step : Step s (.publish message) t) :
    s.phase = .idle ∧ t.messages = s.messages ++ [message] ∧ s.outcomes <+: t.outcomes := by
  have grown := step.outcomes_grow
  cases step with
  | unconnected _ idle | reconnect _ idle | begin _ idle => exact ⟨idle, rfl, grown⟩

/-- No call is at work, and each has an outcome. -/
theorem State.Tracked.idle_count (tracked : s.Tracked) (idle : s.phase = .idle) :
    s.messages.length = s.outcomes.length := by
  have current := tracked.control.current
  simp only [State.Current, idle] at current
  exact current.1

section Termination

/-- The labels of the call itself: what is left is the broker's and the network's. -/
def Label.isOwn : Label → Bool
  | .ready | .refuse _ _ _ | .send | .complete | .fail => true
  | _ => false

/-- What a call does next. -/
inductive Task where
  | attempt
  | send
  | finish

/-- What it may be answered: an attempt of `connect` is refused or not, and where the
connection of a frame is lost, `basic_publish` notices it or not. -/
structure Answer where
  refusal : Option (Stage × Bool × Bool)
  notices : Bool

/-- The channel belongs to a connection which is lost. -/
def State.cut (s : State) : Bool := s.channel.any fun link => !s.usable link

def Task.answered (s : State) (answer : Answer) : Task → Label
  | .attempt =>
    match answer.refusal with
    | none => .ready
    | some (stage, closed, retryable) => .refuse stage closed retryable
  | .send => .send
  | .finish => if answer.notices && s.cut then .fail else .complete

/-- The call is at this task. It goes on however that is answered, and in no other way. -/
structure State.Awaits (s : State) (task : Task) : Prop where
  enabled : ∀ answer, (next s (task.answered s answer)).isSome = true
  only : ∀ label, label.isOwn = true → (next s label).isSome = true → ∃ answer, label = task.answered s answer

/-- The steps which an attempt to send takes at most, from its `basic_publish`
on. The first of two attempts may be followed by all ten of a `connect`. -/
def Frame.remaining (frame : Frame) : Nat := if frame.again then 1 else 1 + connectAttempts + 2

def Phase.remaining : Phase → Nat
  | .idle => 0
  | .connecting none left => left + 1
  | .connecting (some frame) left => left + 1 + (frame.remaining + 1)
  | .sending frame => frame.remaining + 1
  | .sent frame => frame.remaining

theorem sendFailed_remaining (s : State) (frame : Frame) :
    (s.sendFailed frame).phase.remaining < frame.remaining := by
  unfold State.sendFailed
  cases again : frame.again <;>
    simp [State.finish, Phase.remaining, Frame.remaining, again, connectAttempts]

/-- A failed attempt of `connect` is followed by another while some are left. -/
theorem next_refuse {stage : Stage} {closed retryable : Bool} {frame : Option Frame} {left : Nat}
    (moved : next s (.refuse stage closed retryable) = some t)
    (connecting : s.phase = .connecting frame left) :
    t.phase = .idle ∨ 0 < left ∧ t.phase = .connecting frame (left - 1) := by
  simp only [next, connecting] at moved
  split at moved
  · next again =>
    cases moved
    exact .inr ⟨again.2, rfl⟩
  · split at moved <;> cases moved <;> exact .inl rfl

theorem lowers (moved : next s label = some t) (own : label.isCall = false) :
    t.phase.remaining + label.isOwn.toNat ≤ s.phase.remaining := by
  have refused {stage : Stage} {closed retryable : Bool} {frame : Option Frame} {left : Nat}
      (moved : next s (.refuse stage closed retryable) = some t)
      (connecting : s.phase = .connecting frame left) :
      t.phase.remaining + 1 ≤ s.phase.remaining := by
    rw [connecting]
    rcases next_refuse moved connecting with idle | ⟨more, again⟩
    · rw [idle]
      cases frame <;> simp only [Phase.remaining] <;> omega
    · rw [again]
      cases frame <;> simp only [Phase.remaining] <;> omega
  cases next_step moved with
  | connect _ | unconnected _ _ | reconnect _ _ | begin _ _ => cases own
  | retry connecting | giveUp connecting | unready connecting => exact refused moved connecting
  | ready connecting => simp [connecting, Phase.remaining, Label.isOwn]
  | proceed connecting =>
    simp only [connecting, Phase.remaining, Label.isOwn, Bool.toNat_true]
    omega
  | hand sending _ _ => simp [sending, Phase.remaining, Label.isOwn]
  | @lost frame sending =>
    rw [sending]
    exact Nat.succ_le_succ (Nat.le_of_lt (sendFailed_remaining s frame))
  | complete sent =>
    simp only [State.finish, sent, Phase.remaining, Frame.remaining, Label.isOwn, Bool.toNat_true]
    split <;> omega
  | @fail frame _ sent _ _ =>
    rw [sent]
    exact Nat.succ_le_of_lt (sendFailed_remaining s frame)
  | read _ | lose _ | notice => exact Nat.le_refl _

/-- A frame is sent on some channel, whether or not its connection is still usable. -/
def State.Linked (s : State) : Prop :=
  ∀ frame, s.phase = .sending frame ∨ s.phase = .sent frame → s.channel.isSome = true

theorem State.Linked.step (linked : s.Linked) (moved : next s label = some t) : t.Linked := by
  have unsent {u : State} {phase : Phase} (here : u.phase = phase)
      (apart : ∀ frame, phase ≠ .sending frame ∧ phase ≠ .sent frame) : u.Linked := by
    rintro frame (sending | sent)
    · exact absurd (here.symm.trans sending) (apart frame).1
    · exact absurd (here.symm.trans sent) (apart frame).2
  have failed (frame : Frame) : (s.sendFailed frame).Linked := by
    unfold State.sendFailed
    split
    · exact unsent rfl (by simp [State.finish])
    · exact unsent rfl (by simp)
  cases next_step moved with
  | begin message idle =>
    have channel : s.channel.isNone = false := by
      by_contra none_left
      rw [Bool.not_eq_false] at none_left
      simp [next, idle, none_left, State.finish] at moved
    intro frame _
    simpa [State.called] using channel
  | proceed _ => exact fun _ _ => rfl
  | hand sending channel _ =>
    intro frame _
    exact Option.isSome_iff_exists.mpr ⟨_, channel⟩
  | connect _ => exact unsent rfl (by simp)
  | unconnected _ _ => exact unsent rfl (by simp [State.finish])
  | reconnect _ _ => exact unsent rfl (by simp)
  | ready _ => exact unsent rfl (by simp)
  | retry _ => exact unsent rfl (by simp)
  | giveUp _ => exact unsent rfl (by simp [State.finish])
  | unready _ => exact unsent rfl (by simp)
  | lost _ => exact failed _
  | complete _ => exact unsent rfl (by simp [State.finish])
  | fail _ _ _ => exact failed _
  | read _ | lose _ | notice => exact linked

theorem run_linked {ls : List Label} (run : Run (Steps next) {} ls s) : s.Linked :=
  run.invariant (fun linked moved => linked.step moved) fun frame sending => by simp at sending

/-- The steps in which a call is at work: no other call of `publish` or `connect`. -/
def CallStep : State → Label → State → Prop := Meeting (Steps next) fun _ label => label.isCall = false

theorem State.awaits_attempt {frame : Option Frame} {left : Nat} (phase : s.phase = .connecting frame left) :
    s.Awaits .attempt where
  enabled answer := by
    simp only [Task.answered]
    split
    · cases frame <;> simp only [next, phase, Option.isSome_some]
    · simp only [next, phase]
      split
      · rfl
      · split <;> rfl
  only label own moved := by
    cases label with
    | ready => exact ⟨⟨none, false⟩, rfl⟩
    | refuse stage closed retryable => exact ⟨⟨some (stage, closed, retryable), false⟩, rfl⟩
    | send | complete | fail => simp [next, phase] at moved
    | _ => cases own

theorem State.awaits_send {frame : Frame} {link : Nat} (phase : s.phase = .sending frame)
    (channel : s.channel = some link) : s.Awaits .send where
  enabled answer := by
    simp only [Task.answered, next, phase, channel]
    split <;> rfl
  only label own moved := by
    cases label with
    | send => exact ⟨⟨none, false⟩, rfl⟩
    | ready | refuse _ _ _ | complete | fail => simp [next, phase] at moved
    | _ => cases own

theorem State.awaits_finish {frame : Frame} {link : Nat} (phase : s.phase = .sent frame)
    (channel : s.channel = some link) : s.Awaits .finish where
  enabled answer := by
    simp only [Task.answered, State.cut, channel, Option.any_some]
    split
    · next fails =>
      obtain ⟨-, unusable⟩ := Bool.and_eq_true_iff.mp fails
      simp only [next, phase, channel, if_neg (Bool.not_eq_true _ ▸ Bool.not_eq_true' _ ▸ unusable),
        Option.isSome_some]
    · simp only [next, phase, Option.isSome_some]
  only label own moved := by
    cases label with
    | complete => exact ⟨⟨none, false⟩, rfl⟩
    | fail =>
      refine ⟨⟨none, true⟩, ?_⟩
      cases usable : s.usable link with
      | true => simp [next, phase, channel, usable] at moved
      | false => simp [Task.answered, State.cut, channel, usable]
    | ready | refuse _ _ _ | send => simp [next, phase] at moved
    | _ => cases own

/-- While a call is at work, it awaits something. -/
theorem State.Linked.awaits (linked : s.Linked) (working : s.phase ≠ .idle) : ∃ task, s.Awaits task := by
  cases phase : s.phase with
  | idle => exact absurd phase working
  | connecting frame left => exact ⟨.attempt, awaits_attempt phase⟩
  | sending frame =>
    obtain ⟨link, channel⟩ := Option.isSome_iff_exists.mp (linked frame (.inl phase))
    exact ⟨.send, awaits_send phase channel⟩
  | sent frame =>
    obtain ⟨link, channel⟩ := Option.isSome_iff_exists.mp (linked frame (.inr phase))
    exact ⟨.finish, awaits_finish phase channel⟩

theorem publish_remaining {message : FlightMessage} (called : next s (.publish message) = some t) :
    t.phase.remaining ≤ 24 := by
  cases next_step called with
  | unconnected _ _ => exact Nat.zero_le _
  | reconnect _ _ | begin _ _ => simp [Phase.remaining, Frame.remaining, connectAttempts]

theorem callStep_messages {ls : List Label} (working : Run CallStep s ls t) :
    t.messages = s.messages := by
  induction working with
  | refl => rfl
  | next _ moved ih => exact ((next_step moved.1).messages_kept moved.2).trans ih

/-- However the broker answers and whatever connections are lost, a call of
`publish` goes on until it has ended, which it does after at most 24 steps of its own:
two sends and two times ten connection attempts. It then has one outcome. -/
theorem publish_ends {ls ms : List Label} {u : State} {message : FlightMessage}
    (run : Run (Steps next) {} ls s) (called : next s (.publish message) = some t)
    (working : Run CallStep t ms u) :
    ms.countP Label.isOwn ≤ 24 ∧ (u.phase = .idle → u.outcomes.length = s.outcomes.length + 1) ∧
      (u.phase ≠ .idle → ∃ task, u.Awaits task) := by
  have before : Run (Steps next) {} (ls ++ [.publish message] ++ ms) u :=
    (run.next called).trans working.forget
  refine ⟨?_, fun idle => ?_, (run_linked before).awaits⟩
  · have descends : ∀ v label w, True → CallStep v label w →
        True ∧ w.phase.remaining + label.isOwn.toNat ≤ v.phase.remaining :=
      fun _ _ _ _ moved => ⟨trivial, lowers moved.1 moved.2⟩
    have bound := (working.countP_le descends trivial).2
    exact (Nat.le_of_add_right_le bound).trans (publish_remaining called)
  · obtain ⟨rested, messages, _⟩ := (next_step called).publish
    have count := (run_tracked before).idle_count idle
    rw [callStep_messages working, messages, List.length_append, List.length_singleton,
      (run_tracked run).idle_count rested] at count
    exact count.symm

/-- The steps of a call which loses its connection and returns from its second attempt. -/
def secondAttempt : List Label := [
  .send, .refuse .connection true true, .ready, .send, .read 1, .complete]

theorem publish_ends_secondAttempt : ∃ s t u, Run (Steps next) {} [.connect, .ready, .lose 0] s ∧
    next s (.publish sighting) = some t ∧ Run CallStep t secondAttempt u ∧
      u.outcomes = [.returned true] ∧ secondAttempt.countP Label.isOwn ≤ 24 ∧
        (u.phase = .idle → u.outcomes.length = s.outcomes.length + 1) ∧
          (u.phase ≠ .idle → ∃ task, u.Awaits task) := by
  have passed : (replay next {} [.connect, .ready, .lose 0]).any (fun s =>
      (next s (.publish sighting)).any fun t =>
        (replay (guarded next fun _ label => !label.isCall) t secondAttempt).any fun u =>
          u.outcomes = [.returned true]) = true := by decide +kernel
  obtain ⟨s, first, passed⟩ := (Option.any_eq_true _ _).mp passed
  obtain ⟨t, called, passed⟩ := (Option.any_eq_true _ _).mp passed
  obtain ⟨u, working, ended⟩ := (Option.any_eq_true _ _).mp passed
  have run := run_of_replay first
  have working : Run CallStep t secondAttempt u :=
    (run_of_replay working).of_guarded fun _ label own => by simpa using own
  exact ⟨s, t, u, run, called, working, of_decide_eq_true ended, publish_ends run called working⟩

end Termination
end FlightHub.RabbitMQPublisher
