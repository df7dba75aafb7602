import FlightHub.Ingestion.Fifo

/-! What the publisher does while no connection is lost: every call returns at
its first attempt, and its message is waiting, unread or enqueued, in order. -/
namespace FlightHub
open Python Transition

namespace RabbitMQPublisher
variable {s t : State} {label : Label}

/-- The message which `basic_publish` has not handed over yet. -/
def State.unhanded (s : State) : List FlightMessage :=
  match s.phase with
  | .sending frame => [frame.message]
  | _ => []

/-- The publisher is connected, and nothing which it was given was lost or doubled. -/
structure State.Steady (s : State) : Prop where
  linked : ∃ link, s.channel = some link ∧ s.connection = some link ∧ s.usable link = true ∧
    s.isClosed link = false
  phase : ∀ frame left, s.phase ≠ .connecting frame left
  returned : ∀ outcome ∈ s.outcomes, outcome ≠ .raised
  kept : s.queue ++ s.unread.map Prod.snd = s.handed
  messages : s.handed.map Frame.message ++ s.unhanded = s.messages

/-- Nothing was published yet. -/
structure State.Blank (s : State) : Prop where
  messages : s.messages = []
  outcomes : s.outcomes = []
  handed : s.handed = []
  unread : s.unread = []
  queue : s.queue = []

theorem State.Blank.halfConnected (blank : s.Blank) (stage : Stage) (closed : Bool) :
    (s.halfConnected stage closed).Blank := by
  obtain ⟨messages, outcomes, handed, unread, queue⟩ := blank
  cases stage <;> exact ⟨messages, outcomes, handed, unread, queue⟩

theorem State.Blank.connected (blank : s.Blank) : ({ s.connected with phase := .idle } : State).Steady where
  linked := ⟨s.opened, rfl, rfl, Function.update_self _ _ _, Function.update_self _ _ _⟩
  phase := by simp
  returned := by simp [State.connected, blank.outcomes]
  kept := by simp [State.connected, blank.queue, blank.unread, blank.handed]
  messages := by simp [State.connected, State.unhanded, blank.handed, blank.messages]

/-- Before the first message only `connect` can be at work. -/
theorem State.Blank.step (blank : s.Blank) (step : Step s label t) (own : label.isCall = false)
    (before : s.phase = .idle ∨ ∃ left, s.phase = .connecting none left) :
    label ≠ .ready ∧ t.Blank ∨ label = .ready ∧ t.Steady := by
  have apart {phase : Phase} (here : s.phase = phase) (other : phase ≠ .idle)
      (another : ∀ left, phase ≠ .connecting none left) :
      label ≠ .ready ∧ t.Blank ∨ label = .ready ∧ t.Steady := by
    rcases before with idle | ⟨left, connecting⟩
    · exact absurd (here.symm.trans idle) other
    · exact absurd (here.symm.trans connecting) (another left)
  cases step with
  | connect _ | unconnected _ _ | reconnect _ _ | begin _ _ => cases own
  | ready _ => exact .inr ⟨rfl, blank.connected⟩
  | proceed here => exact apart here (by simp) (by simp)
  | retry _ =>
    obtain ⟨messages, outcomes, handed, unread, queue⟩ := blank.halfConnected _ _
    exact .inl ⟨by simp, messages, outcomes, handed, unread, queue⟩
  | giveUp here => exact apart here (by simp) (by simp)
  | unready _ =>
    obtain ⟨messages, outcomes, handed, unread, queue⟩ := blank.halfConnected _ _
    exact .inl ⟨by simp, messages, outcomes, handed, unread, queue⟩
  | hand here _ _ => exact apart here (by simp) (by simp)
  | lost here => exact apart here (by simp) (by simp)
  | complete here => exact apart here (by simp) (by simp)
  | fail here _ _ => exact apart here (by simp) (by simp)
  | read member =>
    rw [blank.unread] at member
    cases member
  | lose _ =>
    refine .inl ⟨by simp, blank.messages, blank.outcomes, blank.handed, ?_, blank.queue⟩
    simp [blank.unread]
  | notice =>
    exact .inl ⟨by simp, blank.messages, blank.outcomes, blank.handed, blank.unread, blank.queue⟩

theorem State.Steady.step (steady : s.Steady) (single : s.Single) (flight : s.Flight)
    (moved : next s label = some t) (unbroken : ∀ link, label ≠ .lose link)
    (own : label ≠ .connect) : t.Steady := by
  obtain ⟨link, channel, connection, usable, open_link⟩ := steady.linked
  cases label with
  | connect => exact absurd rfl own
  | publish message =>
    have idle := (next_step moved).publish.1
    simp only [next, idle, channel, connection, Option.isNone_some, Option.all_some, open_link,
      Bool.false_eq_true, if_false, if_true, Option.some.injEq] at moved
    have messages := steady.messages
    rw [State.unhanded, idle, List.append_nil] at messages
    subst moved
    refine ⟨⟨link, rfl, rfl, usable, open_link⟩, by simp, steady.returned, steady.kept, ?_⟩
    rw [State.unhanded, messages]
  | ready =>
    cases next_step moved with
    | ready connecting => exact absurd connecting (steady.phase _ _)
    | proceed connecting => exact absurd connecting (steady.phase _ _)
  | refuse stage closed retryable =>
    cases next_step moved with
    | retry connecting => exact absurd connecting (steady.phase _ _)
    | giveUp connecting => exact absurd connecting (steady.phase _ _)
    | unready connecting => exact absurd connecting (steady.phase _ _)
  | send =>
    have messages := steady.messages
    simp only [next, channel] at moved
    split at moved
    · next frame other sending same =>
      obtain rfl := Option.some.inj same
      simp only [usable, if_true, Option.some.injEq] at moved
      rw [State.unhanded, sending] at messages
      subst moved
      refine ⟨⟨link, rfl, connection, usable, open_link⟩, by simp, steady.returned, ?_, ?_⟩
      · rw [List.map_append, ← List.append_assoc, steady.kept]
        rfl
      · rw [State.unhanded, List.append_nil, List.map_append]
        exact messages
    · cases moved
  | complete =>
    cases next_step moved with
    | complete sent =>
      have messages := steady.messages
      rw [State.unhanded, sent] at messages
      refine ⟨⟨link, channel, connection, usable, open_link⟩, by simp [State.finish], ?_,
        steady.kept, messages⟩
      intro outcome member
      rcases List.mem_append.mp member with before | last
      · exact steady.returned outcome before
      · rw [List.mem_singleton.mp last]
        simp
  | fail =>
    cases next_step moved with
    | fail _ other unusable =>
      obtain rfl := Option.some.inj (channel.symm.trans other)
      rw [usable] at unusable
      cases unusable
  | read link =>
    obtain ⟨entry, rest, unread, rfl⟩ := single.reads flight moved
    refine ⟨steady.linked, steady.phase, steady.returned, ?_, steady.messages⟩
    have kept := steady.kept
    rw [unread, List.map_cons] at kept
    rwa [List.append_assoc, List.singleton_append]
  | lose link => exact absurd rfl (unbroken link)
  | notice other =>
    obtain ⟨lost, moved⟩ := Option.ite_none_left_eq_some.mp moved
    cases moved
    have differs : link ≠ other := by
      rintro rfl
      exact lost usable
    refine ⟨⟨link, channel, connection, usable, ?_⟩, steady.phase, steady.returned, steady.kept,
      steady.messages⟩
    exact (Function.update_of_ne differs _ _).trans open_link

end RabbitMQPublisher

namespace Ingestion
variable {pydantic : Pydantic} {settings : Settings} {s t : State} {label : Label}

/-- No connection of the publisher is lost. -/
def Unbroken (_ : State) (label : Label) : Prop := ∀ link, label ≠ .publisher (.lose link)

def Stage.started : Stage → Bool
  | .starting | .connecting | .failed => false
  | _ => true

/-- Nothing is published before the loop, and what is published in it is kept. -/
structure Lossless (s : State) : Prop where
  before : s.stage.started = false → s.publisher.Blank
  loop : s.stage.started = true → s.publisher.Steady

theorem Lossless.apart (lossless : Lossless s) (publisher : t.publisher = s.publisher)
    (started : t.stage.started = s.stage.started) : Lossless t := by
  constructor
  · rw [publisher, started]
    exact lossless.before
  · rw [publisher, started]
    exact lossless.loop

theorem Stage.connected_unready {label : RabbitMQPublisher.Label} {phase : RabbitMQPublisher.Phase}
    (unready : label ≠ .ready) : (Stage.connected .connecting label phase).started = false := by
  cases label with
  | ready => exact absurd rfl unready
  | refuse stage closed retryable => cases phase <;> rfl
  | _ => rfl

theorem Lossless.publisher (lossless : Lossless s) (published : Published s)
    (ordered : s.publisher.Ordered) {label : RabbitMQPublisher.Label} {publisher : RabbitMQPublisher.State}
    (own : label.isCall = false) (moved : RabbitMQPublisher.next s.publisher label = some publisher)
    (unbroken : ∀ link, label ≠ .lose link) :
    Lossless { s with publisher, stage := s.stage.connected label publisher.phase } := by
  have step := RabbitMQPublisher.next_step moved
  have holds := published.holds
  by_cases connecting : s.stage = .connecting
  · rw [connecting] at holds
    have blank := lossless.before (by rw [connecting]; rfl)
    rcases blank.step step own (.inr holds) with ⟨unready, stays⟩ | ⟨rfl, steady⟩
    · have outside : (Stage.connected .connecting label publisher.phase).started = false :=
        Stage.connected_unready unready
      refine ⟨fun _ => stays, ?_⟩
      simp only [connecting, outside, Bool.false_eq_true, false_implies]
    · refine ⟨?_, fun _ => steady⟩
      simp [connecting, Stage.connected, Stage.started]
  · have same : s.stage.connected label publisher.phase = s.stage := by
      rcases s.stage.connected_cases label publisher.phase with same | ⟨here, _⟩
      · exact same
      · exact absurd here connecting
    rw [same]
    constructor
    · intro outside
      have idle : s.publisher.phase = .idle := by
        cases stage : s.stage with
        | starting | failed =>
          rw [stage] at holds
          exact holds
        | connecting => exact absurd stage connecting
        | _ =>
          simp only [stage] at outside
          cases outside
      rcases (lossless.before outside).step step own (.inl idle) with ⟨_, stays⟩ | ⟨rfl, _⟩
      · exact stays
      · simp [RabbitMQPublisher.next, idle] at moved
    · intro inside
      refine (lossless.loop inside).step ordered.single ordered.tracked.flight moved unbroken ?_
      rintro rfl
      cases own

theorem Lossless.step (lossless : Lossless s) (published : Published s) {ls : List Label}
    (ordered : Ordered s ls) (step : Step pydantic settings s label t) (unbroken : Unbroken s label) :
    Lossless t := by
  cases step with
  | tick _ | signal => exact lossless.apart rfl rfl
  | publisher own moved =>
    refine lossless.publisher published ordered.publisher own moved ?_
    rintro link rfl
    exact unbroken link rfl
  | connect starting moved =>
    refine ⟨fun _ => ?_, by simp [Stage.started]⟩
    obtain ⟨messages, outcomes, handed, unread, queue⟩ := lossless.before (by rw [starting]; rfl)
    cases RabbitMQPublisher.next_step moved
    exact ⟨messages, outcomes, handed, unread, queue⟩
  | begin ready _ => exact lossless.apart rfl (by rw [ready]; rfl)
  | fetched polling _ | unfetched polling => exact lossless.apart rfl (by rw [polling]; rfl)
  | publish publishing moved =>
    refine ⟨by simp [Stage.started], fun _ => ?_⟩
    exact (lossless.loop (by rw [publishing]; rfl)).step ordered.publisher.single
      ordered.publisher.tracked.flight moved (by simp) (by simp)
  | returned calling _ _ | raised calling _ _ => exact lossless.apart rfl (by rw [calling]; rfl)
  | touched complete | untouched complete => exact lossless.apart rfl (by rw [complete]; rfl)
  | pause pausing => exact lossless.apart rfl (by rw [pausing]; rfl)
  | wake sleeping _ => exact lossless.apart rfl (by rw [sleeping]; rfl)
  | leave ready _ => exact lossless.apart rfl (by rw [ready]; rfl)

theorem run_lossless {ls : List Label} {clock : ℚ}
    (run : Run (Meeting (Steps (next pydantic settings)) Unbroken) (initial settings clock) ls s) :
    Lossless s := by
  induction run with
  | refl => exact ⟨fun _ => ⟨rfl, rfl, rfl, rfl, rfl⟩, by simp [initial, Stage.started]⟩
  | next before moved ih =>
    exact ih.step (run_published before.forget) (run_ordered before.forget) (next_step moved.1) moved.2

/-- What was published is enqueued or on its way, in order and each once. -/
theorem Lossless.kept (lossless : Lossless s) (published : Published s) :
    s.publisher.queue.map RabbitMQPublisher.Frame.message ++
      s.publisher.unread.map (fun entry => entry.2.message) ++ s.publisher.unhanded =
        s.publisher.messages := by
  cases inside : s.stage.started with
  | true =>
    have steady := lossless.loop inside
    rw [← steady.messages, ← steady.kept, List.map_append, List.map_map]
    rfl
  | false =>
    obtain ⟨messages, _, _, unread, queue⟩ := lossless.before inside
    have holds := published.holds
    have unhanded : s.publisher.unhanded = [] := by
      cases stage : s.stage with
      | starting | failed =>
        rw [stage] at holds
        have idle : s.publisher.phase = .idle := holds
        simp only [RabbitMQPublisher.State.unhanded, idle]
      | connecting =>
        rw [stage] at holds
        obtain ⟨left, connecting⟩ := holds
        simp only [RabbitMQPublisher.State.unhanded, connecting]
      | _ =>
        rw [stage] at inside
        cases inside
    simp [messages, unread, queue, unhanded]

/-- No call raises, so a poll which is over has published all that it accepted. -/
theorem Lossless.polled (lossless : Lossless s) (published : Published s) {cycle : Cycle}
    (member : cycle ∈ s.cycles) : cycle.published = cycle.fetched.length := by
  have accounted := published.past cycle member
  rcases Nat.lt_or_eq_of_le accounted.bound with short | all
  · obtain ⟨_, raised⟩ := accounted.abandoned short
    have logged := List.mem_of_getElem? raised
    cases inside : s.stage.started with
    | false =>
      rw [(lossless.before inside).outcomes] at logged
      cases logged
    | true => exact absurd rfl ((lossless.loop inside).returned _ logged)
  · exact all

end Ingestion
end FlightHub
