import FlightHub.Ingestion.Cycles

/-! The order in which the broker enqueues. At most one connection at a time can
carry frames, since a new one is opened only when the last is lost, so frames
are never overtaken: they are enqueued in the order of their calls. -/
namespace FlightHub
open Python Transition

namespace RabbitMQPublisher
variable {s t : State} {label : Label}

/-- `connect` is called from outside before there is any connection. -/
def ConnectsOnce (s : State) (label : Label) : Prop := label = .connect → s.opened = 0

def State.Unusable (s : State) : Prop := ∀ link, s.usable link = false

/-- A connection which can carry frames is the current one, and is not known to
be closed; none can while another is being opened. -/
structure State.Single (s : State) : Prop where
  current : ∀ link, s.usable link = true → s.channel = some link ∧ s.connection = some link ∧
    s.isClosed link = false ∧ link < s.opened
  connecting : ∀ frame left, s.phase = .connecting frame left → s.Unusable

/-- The frames which the broker has or may still read follow one another as they
were handed over, and those do as their calls. -/
structure State.InOrder (s : State) : Prop where
  kept : (s.queue ++ s.unread.map Prod.snd).Sublist s.handed
  sorted : s.handed.Pairwise fun earlier later => earlier.call ≤ later.call

theorem State.Unusable.halfConnected (unusable : s.Unusable) (stage : Stage) (closed : Bool) :
    (s.halfConnected stage closed).Unusable := by
  have updated : ∀ link, Function.update s.usable s.opened false link = false := by
    intro link
    by_cases new : link = s.opened
    · rw [new, Function.update_self]
    · rw [Function.update_of_ne new]
      exact unusable link
  cases stage with
  | connection => exact unusable
  | channel | topology => exact updated

theorem State.Unusable.single (unusable : s.Unusable) : s.Single where
  current link usable := by
    rw [unusable link] at usable
    cases usable
  connecting _ _ _ := unusable

/-- A frame could not be sent, so no connection is left. -/
theorem State.Single.unusable (single : s.Single) {link : Nat} (channel : s.channel = some link)
    (lost : s.usable link = false) : s.Unusable := by
  intro other
  by_contra usable
  rw [Bool.not_eq_false] at usable
  have same := channel.symm.trans (single.current other usable).1
  rw [Option.some.injEq] at same
  rw [← same, lost] at usable
  cases usable

theorem State.Unusable.sendFailed (unusable : s.Unusable) (frame : Frame) :
    (s.sendFailed frame).Unusable := by
  unfold State.sendFailed
  split <;> exact unusable

/-- A connection which is opened while no other can carry frames is the only one. -/
theorem State.Unusable.connected (unusable : s.Unusable) (link : Nat)
    (usable : s.connected.usable link = true) : s.connected.channel = some link ∧
      s.connected.connection = some link ∧ s.connected.isClosed link = false ∧
        link < s.connected.opened := by
  obtain rfl : link = s.opened := by
    by_contra other
    simp only [State.connected, Function.update_of_ne other, unusable link] at usable
    cases usable
  exact ⟨rfl, rfl, Function.update_self _ _ _, Nat.lt_succ_self _⟩

theorem State.Single.step (single : s.Single) (moved : next s label = some t)
    (once : ConnectsOnce s label) : t.Single := by
  have frame {u : State} (usable : u.usable = s.usable) (isClosed : u.isClosed = s.isClosed)
      (links : u.channel = s.channel ∧ u.connection = s.connection ∧ u.opened = s.opened)
      (apart : ∀ frame left, u.phase ≠ .connecting frame left) : u.Single := by
    constructor
    · rw [usable, isClosed, links.1, links.2.1, links.2.2]
      exact single.current
    · exact fun frame left connecting => absurd connecting (apart frame left)
  cases label with
  | connect =>
    have none_opened := once rfl
    obtain ⟨_, moved⟩ := Option.ite_none_right_eq_some.mp moved
    cases moved
    refine State.Unusable.single fun link => ?_
    by_contra usable
    rw [Bool.not_eq_false] at usable
    have bound := (single.current link usable).2.2.2
    rw [none_opened] at bound
    exact absurd bound (Nat.not_lt_zero _)
  | publish message =>
    obtain ⟨_, moved⟩ := Option.ite_none_right_eq_some.mp moved
    dsimp only at moved
    split at moved
    · cases moved
      exact frame rfl rfl ⟨rfl, rfl, rfl⟩ (by simp [State.finish])
    · split at moved
      · next closed =>
        cases moved
        refine State.Unusable.single fun link => ?_
        by_contra usable
        rw [Bool.not_eq_false] at usable
        obtain ⟨_, connection, open_link, _⟩ := single.current link usable
        simp [connection, open_link] at closed
      · cases moved
        exact frame rfl rfl ⟨rfl, rfl, rfl⟩ (by simp)
  | ready =>
    simp only [next] at moved
    split at moved <;> cases moved
    · next connecting => exact ⟨(single.connecting _ _ connecting).connected, by simp⟩
    · next connecting => exact ⟨(single.connecting _ _ connecting).connected, by simp⟩
  | refuse stage closed retryable =>
    simp only [next] at moved
    split at moved
    · next connecting =>
      have unusable := (single.connecting _ _ connecting).halfConnected stage closed
      split at moved
      · cases moved
        exact State.Unusable.single unusable
      · split at moved <;> cases moved <;> exact State.Unusable.single unusable
    · cases moved
  | send =>
    simp only [next] at moved
    split at moved
    · next channel =>
      split at moved <;> cases moved
      · exact frame rfl rfl ⟨rfl, rfl, rfl⟩ (by simp)
      · next lost =>
        exact ((single.unusable channel (Bool.not_eq_true _ ▸ lost)).sendFailed _).single
    · cases moved
  | complete =>
    simp only [next] at moved
    split at moved <;> cases moved
    exact frame rfl rfl ⟨rfl, rfl, rfl⟩ (by simp [State.finish])
  | fail =>
    simp only [next] at moved
    split at moved
    · next channel =>
      obtain ⟨lost, moved⟩ := Option.ite_none_left_eq_some.mp moved
      cases moved
      exact ((single.unusable channel (Bool.not_eq_true _ ▸ lost)).sendFailed _).single
    · cases moved
  | read link =>
    obtain ⟨entry, _, rfl⟩ := Option.map_eq_some_iff.mp moved
    exact ⟨single.current, single.connecting⟩
  | lose link =>
    obtain ⟨_, moved⟩ := Option.ite_none_right_eq_some.mp moved
    cases moved
    have kept {other : Nat} (usable : Function.update s.usable link false other = true) :
        s.usable other = true := by
      by_cases same : other = link
      · rw [same, Function.update_self] at usable
        cases usable
      · rwa [Function.update_of_ne same] at usable
    refine ⟨fun other usable => single.current other (kept usable), fun frame left connecting other => ?_⟩
    by_contra usable
    rw [Bool.not_eq_false] at usable
    have usable := kept usable
    rw [single.connecting frame left connecting other] at usable
    cases usable
  | notice link =>
    obtain ⟨lost, moved⟩ := Option.ite_none_left_eq_some.mp moved
    cases moved
    refine ⟨fun other usable => ?_, single.connecting⟩
    obtain ⟨channel, connection, open_link, bound⟩ := single.current other usable
    have differs : other ≠ link := fun same => lost (same ▸ usable)
    exact ⟨channel, connection, (Function.update_of_ne differs _ _).trans open_link, bound⟩

/-- All unread frames are on one connection. -/
theorem State.Single.unread (single : s.Single) (flight : s.Flight) {first other : Nat × Frame}
    (member : first ∈ s.unread) (also : other ∈ s.unread) : first.1 = other.1 := by
  have one := (single.current _ (flight first.1 first.2 member).usable).1
  have two := (single.current _ (flight other.1 other.2 also).usable).1
  exact Option.some.inj (one.symm.trans two)

/-- The broker reads the frame which has waited longest. -/
theorem State.Single.reads (single : s.Single) (flight : s.Flight) {link : Nat}
    (moved : next s (.read link) = some t) : ∃ entry rest, s.unread = entry :: rest ∧
      t = { s with unread := rest, queue := s.queue ++ [entry.2] } := by
  obtain ⟨entry, found, rfl⟩ := Option.map_eq_some_iff.mp moved
  cases unread : s.unread with
  | nil => simp [unread] at found
  | cons first rest =>
    have at_link : first.1 = link := by
      have also := List.find?_some found
      rw [decide_eq_true_eq] at also
      exact (single.unread flight (unread ▸ List.mem_cons_self)
        (List.mem_of_find?_eq_some found)).trans also
    simp only [unread, List.find?_cons, at_link, decide_true, Option.some.injEq] at found
    obtain rfl := found
    exact ⟨first, rest, rfl, by rw [List.erase_cons_head]⟩

theorem handed_le (history : s.History) {frame : Frame} (member : frame ∈ s.handed) :
    frame.call ≤ s.outcomes.length := by
  by_contra after
  have unsent := history.future frame.call (Nat.not_le.mp after)
  have listed : frame.again ∈ s.attempts frame.call :=
    List.mem_map.mpr ⟨frame, List.mem_filter.mpr ⟨member, by simp⟩, rfl⟩
  rw [unsent] at listed
  cases listed

theorem State.InOrder.step (inOrder : s.InOrder) (single : s.Single) (tracked : s.Tracked)
    (moved : next s label = some t) : t.InOrder := by
  have half (stage : Stage) (closed : Bool) : (s.halfConnected stage closed).InOrder := by
    cases stage <;> exact ⟨inOrder.kept, inOrder.sorted⟩
  have failed (frame : Frame) : (s.sendFailed frame).InOrder := by
    unfold State.sendFailed
    split <;> exact ⟨inOrder.kept, inOrder.sorted⟩
  have step := next_step moved
  cases step with
  | retry _ => exact ⟨(half _ _).kept, (half _ _).sorted⟩
  | giveUp _ => exact ⟨(half _ _).kept, (half _ _).sorted⟩
  | unready _ => exact ⟨(half _ _).kept, (half _ _).sorted⟩
  | lost _ => exact failed _
  | fail _ _ _ => exact failed _
  | @hand frame link sending channel usable =>
    have current := tracked.control.current
    simp only [State.Current, sending] at current
    constructor
    · rw [List.map_append, ← List.append_assoc]
      exact inOrder.kept.append (List.Sublist.refl [frame])
    · refine List.pairwise_append.mpr ⟨inOrder.sorted, List.pairwise_singleton _ _, ?_⟩
      intro earlier member later last
      rw [List.mem_singleton.mp last, current.1.call]
      exact handed_le tracked.control.history member
  | read _ =>
    obtain ⟨first, rest, unread, same⟩ := single.reads tracked.flight moved
    rw [same]
    refine ⟨?_, inOrder.sorted⟩
    have kept := inOrder.kept
    rw [unread, List.map_cons] at kept
    rwa [List.append_assoc, List.singleton_append]
  | lose _ =>
    refine ⟨(List.Sublist.append (.refl _) ?_).trans inOrder.kept, inOrder.sorted⟩
    exact List.filter_sublist.map _
  | _ => exact ⟨inOrder.kept, inOrder.sorted⟩

theorem initial_single : State.Single {} where
  current _ usable := by cases usable
  connecting _ _ connecting := by cases connecting

theorem initial_inOrder : State.InOrder {} := ⟨.refl _, .nil⟩

structure State.Ordered (s : State) : Prop where
  tracked : s.Tracked
  single : s.Single
  inOrder : s.InOrder

theorem initial_ordered : State.Ordered {} := ⟨initial_tracked, initial_single, initial_inOrder⟩

theorem State.Ordered.step (ordered : s.Ordered) (moved : next s label = some t)
    (once : ConnectsOnce s label) : t.Ordered where
  tracked := ordered.tracked.step (next_step moved)
  single := ordered.single.step moved once
  inOrder := ordered.inOrder.step ordered.single ordered.tracked moved

theorem State.Ordered.queue_sorted (ordered : s.Ordered) :
    s.queue.Pairwise fun earlier later => earlier.call ≤ later.call :=
  ordered.inOrder.sorted.sublist ((List.sublist_append_left _ _).trans ordered.inOrder.kept)

end RabbitMQPublisher

namespace Ingestion
variable {pydantic : Pydantic} {settings : Settings} {s t : State}

/-- When `FlightMessage` took the time of its message. -/
def Label.fetchedAt : Label → Option Datetime
  | .publish now => some now
  | _ => none

/-- The publisher's part of a run of the service: its calls have the times of
the run, and `connect` is called before there is any connection. -/
structure Ordered (s : State) (ls : List Label) : Prop where
  unopened : s.stage = .starting → s.publisher.opened = 0
  times : s.publisher.messages.map FlightMessage.fetchedAt = ls.filterMap Label.fetchedAt
  publisher : s.publisher.Ordered

namespace Ordered
variable {ls : List Label} {label : Label}

/-- A step which neither calls the publisher nor goes back to before `connect`. -/
theorem apart (ordered : Ordered s ls) (publisher : t.publisher = s.publisher)
    (stage : t.stage = s.stage ∨ t.stage ≠ .starting) (untimed : label.fetchedAt = none) :
    Ordered t (ls ++ [label]) where
  unopened starting := by
    rw [publisher]
    rcases stage with same | started
    · exact ordered.unopened (same ▸ starting)
    · exact absurd starting started
  times := by
    rw [publisher, ordered.times, List.filterMap_append, List.filterMap_cons_none untimed,
      List.filterMap_nil, List.append_nil]
  publisher := publisher ▸ ordered.publisher

theorem step (ordered : Ordered s ls) (published : Published s)
    (step : Step pydantic settings s label t) : Ordered t (ls ++ [label]) := by
  cases step with
  | tick _ | signal => exact ordered.apart rfl (.inl rfl) rfl
  | @publisher label later own moved =>
    have step := RabbitMQPublisher.next_step moved
    refine ⟨fun starting => ?_, ?_, ordered.publisher.step moved fun connect => ?_⟩
    · have before : s.stage = .starting := by
        rcases s.stage.connected_cases label later.phase with same | ⟨_, ready | failed⟩
        · exact same.symm.trans starting
        · exact absurd (ready.symm.trans starting) nofun
        · exact absurd (failed.symm.trans starting) nofun
      have idle := published.holds
      rw [before] at idle
      exact (step.idle_kept own idle).2.trans (ordered.unopened before)
    · rw [step.messages_kept own, ordered.times]
      simp [Label.fetchedAt]
    · rw [connect] at own
      cases own
  | connect starting moved =>
    refine ⟨nofun, ?_, ordered.publisher.step moved fun _ => ordered.unopened starting⟩
    rw [List.filterMap_append, List.filterMap_cons_none rfl, List.filterMap_nil, List.append_nil,
      ← ordered.times]
    cases RabbitMQPublisher.next_step moved
    rfl
  | begin _ _ => exact ordered.apart rfl (.inr (by simp)) rfl
  | fetched _ _ => exact ordered.apart rfl (.inr (by simp)) rfl
  | unfetched _ => exact ordered.apart rfl (.inr (by simp)) rfl
  | publish _ moved =>
    refine ⟨nofun, ?_, ordered.publisher.step moved nofun⟩
    rw [(RabbitMQPublisher.next_step moved).publish.2.1, List.map_append, ordered.times]
    simp [Label.fetchedAt]
  | returned _ _ _ | raised _ _ _ => exact ordered.apart rfl (.inr (by simp)) rfl
  | touched _ | untouched _ => exact ordered.apart rfl (.inr (by simp)) rfl
  | pause _ | wake _ _ | leave _ _ => exact ordered.apart rfl (.inr (by simp)) rfl

end Ordered

theorem run_ordered {ls : List Label} {clock : ℚ}
    (run : Run (Steps (next pydantic settings)) (initial settings clock) ls s) : Ordered s ls := by
  induction run with
  | refl => exact ⟨fun _ => rfl, rfl, RabbitMQPublisher.initial_ordered⟩
  | next before moved ih => exact ih.step (run_published before) (next_step moved)

theorem Ordered.carried {ls : List Label} (ordered : Ordered s ls)
    {frame : RabbitMQPublisher.Frame} (enqueued : frame ∈ s.publisher.queue) :
    s.publisher.messages[frame.call]? = some frame.message :=
  ordered.publisher.tracked.control.history.carried frame
    (ordered.publisher.inOrder.kept.subset (List.mem_append_left _ enqueued))

/-- The messages are enqueued in the order of their times, when the clock was not set back. -/
theorem Ordered.forward {ls : List Label} (ordered : Ordered s ls)
    (forward : (ls.filterMap Label.fetchedAt).Pairwise fun before after =>
      before.micros ≤ after.micros) :
    s.publisher.queue.Pairwise fun earlier later =>
      earlier.message.fetchedAt.micros ≤ later.message.fetchedAt.micros := by
  rw [← ordered.times, List.pairwise_map] at forward
  refine ordered.publisher.queue_sorted.imp_of_mem ?_
  intro earlier later first second order
  obtain ⟨before, own⟩ := List.getElem?_eq_some_iff.mp (ordered.carried first)
  obtain ⟨after, other⟩ := List.getElem?_eq_some_iff.mp (ordered.carried second)
  rw [← own, ← other]
  rcases Nat.lt_or_eq_of_le order with less | same
  · exact List.pairwise_iff_getElem.mp forward _ _ before after less
  · simp only [same, le_refl]

/-- Whatever connections are lost, the broker enqueues the messages in the order
of their calls, some twice or not at all; and so in the order of their
`fetched_at`, unless the clock was set back. -/
theorem enqueued_in_order {ls : List Label} {clock : ℚ}
    (run : Run (Steps (next pydantic settings)) (initial settings clock) ls s) :
    (s.publisher.queue.Pairwise fun earlier later => earlier.call ≤ later.call) ∧
      (∀ frame ∈ s.publisher.queue, s.publisher.messages[frame.call]? = some frame.message) ∧
      (((ls.filterMap Label.fetchedAt).Pairwise fun before after => before.micros ≤ after.micros) →
        s.publisher.queue.Pairwise fun earlier later =>
          earlier.message.fetchedAt.micros ≤ later.message.fetchedAt.micros) := by
  have ordered := run_ordered run
  refine ⟨ordered.publisher.queue_sorted, ?_, ordered.forward⟩
  intro frame enqueued
  exact ordered.carried enqueued

/-- A message of the second cycle is read, its connection is lost under its call, and
the call sends it again. -/
def retriedCycle : List Label := fullCycle ++ [
  .publisher (.read 0), .fetch (OpenSkyClient.poll [.arr OpenSkyClient.shortState, .arr otherState]),
  .publish ⟨1735400026000000, by decide, by decide⟩, .publisher .send, .publisher (.read 0),
  .publisher (.lose 0), .publisher .fail, .publisher .ready, .publisher .send, .publisher .complete, .resume,
  .publish ⟨1735400027000000, by decide, by decide⟩, .publisher .send, .publisher .complete, .resume,
  .publisher (.read 1), .publisher (.read 1)]

theorem enqueued_in_order_retriedCycle :
    ∃ s, Run (Steps (next .strict {})) (initial {} 0) retriedCycle s ∧
      s.publisher.queue.map RabbitMQPublisher.Frame.call = [0, 1, 1, 2] ∧
        (s.publisher.queue.Pairwise fun earlier later => earlier.call ≤ later.call) ∧
          (∀ frame ∈ s.publisher.queue, s.publisher.messages[frame.call]? = some frame.message) ∧
            s.publisher.queue.Pairwise fun earlier later =>
              earlier.message.fetchedAt.micros ≤ later.message.fetchedAt.micros := by
  have passed : (replay (next .strict {}) (initial {} 0) retriedCycle).any
      (fun s => s.publisher.queue.map RabbitMQPublisher.Frame.call = [0, 1, 1, 2]) = true := by decide +kernel
  obtain ⟨s, run, calls⟩ := run_of_test passed
  obtain ⟨order, carried, times⟩ := enqueued_in_order run
  exact ⟨s, run, of_decide_eq_true calls, order, carried, times (by decide)⟩

end Ingestion
end FlightHub
