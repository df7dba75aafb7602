import FlightHub.Ingestion.Pacing

/-! What the cycles of the ingestion service publish: each what it fetched, in
order, until a call raises; and the heartbeat file is touched by those which
published everything. -/
namespace FlightHub.Ingestion
open Python Transition
open RabbitMQPublisher (Outcome)
variable {pydantic : Pydantic} {settings : Settings} {s t : State} {label : Label}

/-- The first calls of the cycle returned. -/
def Cycle.Returned (outcomes : List Outcome) (cycle : Cycle) (count : Nat) : Prop :=
  ∀ k < count, ∃ again, outcomes[cycle.first + k]? = some (.returned again)

/-- The calls of the cycle carried the first of the state vectors it fetched. -/
structure Cycle.Carried (messages : List FlightMessage) (cycle : Cycle) : Prop where
  bound : cycle.published ≤ cycle.fetched.length
  within : cycle.first + cycle.published ≤ messages.length
  states : ((messages.drop cycle.first).take cycle.published).map FlightMessage.state =
    cycle.fetched.take cycle.published

/-- A cycle which is over: it stopped before its last state vector only at a
call which raised, and touched the heartbeat file only when all had returned. -/
structure Cycle.Accounted (publisher : RabbitMQPublisher.State) (cycle : Cycle) : Prop
    extends cycle.Carried publisher.messages where
  returned : cycle.Returned publisher.outcomes (cycle.published - 1)
  abandoned : cycle.published < cycle.fetched.length → 0 < cycle.published ∧
    publisher.outcomes[cycle.first + (cycle.published - 1)]? = some .raised
  completed : cycle.completed = true → cycle.published = cycle.fetched.length ∧
    cycle.Returned publisher.outcomes cycle.published

theorem Cycle.Returned.grow {outcomes later : List Outcome} {cycle : Cycle} {count : Nat}
    (returned : cycle.Returned outcomes count) (grown : outcomes <+: later) :
    cycle.Returned later count := by
  intro k small
  obtain ⟨again, ended⟩ := returned k small
  exact ⟨again, RabbitMQPublisher.getElem?_of_grows grown ended⟩

theorem Cycle.Carried.grow {messages later : List FlightMessage} {cycle : Cycle}
    (carried : cycle.Carried messages) (grown : messages <+: later) : cycle.Carried later where
  bound := carried.bound
  within := carried.within.trans grown.length_le
  states := by
    obtain ⟨newer, rfl⟩ := grown
    have within := carried.within
    rw [List.drop_append_of_le_length (by omega), List.take_append_of_le_length, carried.states]
    rw [List.length_drop]
    omega

theorem Cycle.Accounted.grow {publisher later : RabbitMQPublisher.State} {cycle : Cycle}
    (accounted : cycle.Accounted publisher) (messages : publisher.messages <+: later.messages)
    (outcomes : publisher.outcomes <+: later.outcomes) : cycle.Accounted later where
  toCarried := accounted.toCarried.grow messages
  returned := accounted.returned.grow outcomes
  abandoned short := by
    obtain ⟨some_call, raised⟩ := accounted.abandoned short
    exact ⟨some_call, RabbitMQPublisher.getElem?_of_grows outcomes raised⟩
  completed complete := by
    obtain ⟨all, returned⟩ := accounted.completed complete
    exact ⟨all, returned.grow outcomes⟩

/-- A cycle at work, with the state vectors which it has still to publish. -/
structure Cycle.Ahead (messages : List FlightMessage) (cycle : Cycle) (rest : List StateVector) :
    Prop extends cycle.Carried messages where
  ahead : cycle.fetched.drop cycle.published = rest
  current : cycle.first + cycle.published = messages.length
  uncompleted : cycle.completed = false

/-- What holds of the cycle at work, in each stage of the loop. -/
def Stage.Holds (publisher : RabbitMQPublisher.State) : Stage → Prop
  | .connecting => ∃ left, publisher.phase = .connecting none left
  | .polling cycle => publisher.phase = .idle ∧ cycle.Ahead publisher.messages [] ∧ cycle.fetched = []
  | .publishing cycle rest => publisher.phase = .idle ∧ cycle.Ahead publisher.messages rest ∧
      cycle.Returned publisher.outcomes cycle.published
  | .calling cycle rest => 0 < cycle.published ∧ cycle.Ahead publisher.messages rest ∧
      cycle.Returned publisher.outcomes (cycle.published - 1)
  | .pausing cycle => publisher.phase = .idle ∧ cycle.Accounted publisher
  | .starting | .ready | .sleeping _ | .stopped | .failed => publisher.phase = .idle

/-- The messages are what the cycles fetched, each up to where it stopped. -/
structure Published (s : State) : Prop where
  tracked : s.publisher.Tracked
  holds : s.stage.Holds s.publisher
  past : ∀ cycle ∈ s.cycles, cycle.Accounted s.publisher
  messages : s.publisher.messages.map FlightMessage.state =
    s.allCycles.flatMap fun cycle => cycle.fetched.take cycle.published

theorem initial_published (settings : Settings) (clock : ℚ) : Published (initial settings clock) where
  tracked := RabbitMQPublisher.initial_tracked
  holds := rfl
  past cycle member := by cases member
  messages := rfl

theorem Stage.Holds.kept {publisher later : RabbitMQPublisher.State} {stage : Stage}
    (holds : stage.Holds publisher) (other : stage ≠ .connecting)
    (idle : publisher.phase = .idle → later.phase = .idle)
    (messages : later.messages = publisher.messages) (outcomes : publisher.outcomes <+: later.outcomes) :
    stage.Holds later := by
  cases stage with
  | connecting => exact absurd rfl other
  | polling cycle => exact ⟨idle holds.1, messages ▸ holds.2.1, holds.2.2⟩
  | publishing cycle rest => exact ⟨idle holds.1, messages ▸ holds.2.1, holds.2.2.grow outcomes⟩
  | calling cycle rest => exact ⟨holds.1, messages ▸ holds.2.1, holds.2.2.grow outcomes⟩
  | pausing cycle => exact ⟨idle holds.1, holds.2.grow (messages ▸ List.prefix_rfl) outcomes⟩
  | _ => exact idle holds

/-- The call of `connect` before the loop goes on or ends it. -/
theorem Stage.Holds.connected {publisher later : RabbitMQPublisher.State}
    {label : RabbitMQPublisher.Label} (holds : Stage.Holds publisher .connecting)
    (own : label.isCall = false) (step : RabbitMQPublisher.Step publisher label later) :
    (Stage.connected .connecting label later.phase).Holds later := by
  obtain ⟨left, connecting⟩ := holds
  have same {frame : Option RabbitMQPublisher.Frame} {other : Nat}
      (here : publisher.phase = .connecting frame other) : frame = none := by
    rw [connecting] at here
    cases here
    rfl
  cases step with
  | connect _ | unconnected _ _ | reconnect _ _ | begin _ _ => cases own
  | ready _ => rfl
  | proceed here => cases same here
  | @retry frame left stage closed here =>
    obtain rfl := same here
    exact ⟨left - 1, rfl⟩
  | giveUp here => cases same here
  | unready _ => rfl
  | hand sending _ _ => exact absurd (connecting.symm.trans sending) nofun
  | lost sending => exact absurd (connecting.symm.trans sending) nofun
  | complete sent => exact absurd (connecting.symm.trans sent) nofun
  | fail sent _ _ => exact absurd (connecting.symm.trans sent) nofun
  | read _ | lose _ | notice => exact ⟨left, connecting⟩

theorem Cycle.Ahead.publish {messages : List FlightMessage} {cycle : Cycle} {state : StateVector}
    {rest : List StateVector} (ahead : cycle.Ahead messages (state :: rest)) (now : Datetime) :
    Cycle.Ahead (messages ++ [⟨state, now⟩]) { cycle with published := cycle.published + 1 } rest ∧
      cycle.fetched.take (cycle.published + 1) = cycle.fetched.take cycle.published ++ [state] := by
  have short : cycle.published < cycle.fetched.length := by
    have known := congrArg List.length ahead.ahead
    rw [List.length_drop, List.length_cons] at known
    omega
  have split := List.drop_eq_getElem_cons short
  rw [ahead.ahead, List.cons.injEq] at split
  obtain ⟨own, later⟩ := split
  have taken : cycle.fetched.take (cycle.published + 1) =
      cycle.fetched.take cycle.published ++ [state] := by
    rw [List.take_succ_eq_append_getElem short, own]
  have current := ahead.current
  have states := ahead.states
  have length : (messages.drop cycle.first).length = cycle.published := by
    rw [List.length_drop]
    omega
  rw [List.take_of_length_le length.le] at states
  refine ⟨⟨⟨short, ?_, ?_⟩, later.symm, ?_, ahead.uncompleted⟩, taken⟩
  · rw [List.length_append, List.length_singleton]
    exact (Nat.succ_le_succ current.le : cycle.first + cycle.published + 1 ≤ messages.length + 1)
  · change ((((messages ++ [(⟨state, now⟩ : FlightMessage)]).drop cycle.first).take
      (cycle.published + 1)).map _) = cycle.fetched.take (cycle.published + 1)
    rw [taken, List.drop_append_of_le_length (by omega), List.take_of_length_le, List.map_append,
      states]
    · rfl
    · rw [List.length_append, length, List.length_singleton]
  · rw [List.length_append, List.length_singleton]
    exact congrArg Nat.succ current

/-- The last outcome is that of the last call of the cycle. -/
theorem Cycle.Ahead.last {publisher : RabbitMQPublisher.State} {cycle : Cycle}
    {rest : List StateVector} {outcome : Outcome} (ahead : cycle.Ahead publisher.messages rest)
    (some_call : 0 < cycle.published) (count : publisher.messages.length = publisher.outcomes.length)
    (ended : publisher.outcomes.getLast? = some outcome) :
    publisher.outcomes[cycle.first + (cycle.published - 1)]? = some outcome := by
  have current := ahead.current
  rw [List.getLast?_eq_getElem?] at ended
  rw [← ended]
  congr 1
  omega

theorem Published.step (published : Published s) (step : Step pydantic settings s label t) :
    Published t := by
  obtain ⟨tracked, holds, past, messages⟩ := published
  cases step with
  | tick _ | signal => exact ⟨tracked, holds, past, messages⟩
  | @publisher label later own moved =>
    have step := RabbitMQPublisher.next_step moved
    have kept := step.messages_kept own
    have grown := step.outcomes_grow
    refine ⟨tracked.step step, ?_, fun cycle member => ?_, ?_⟩
    · rcases s.stage.connected_cases label later.phase with same | ⟨connecting, _⟩
      · by_cases connecting : s.stage = .connecting
        · rw [connecting] at holds ⊢
          exact holds.connected own step
        · simp only [same]
          exact holds.kept connecting (fun idle => (step.idle_kept own idle).1) kept grown
      · rw [connecting] at holds ⊢
        exact holds.connected own step
    · exact (past cycle member).grow (kept ▸ List.prefix_rfl) grown
    · simpa only [State.allCycles, Stage.connected_cycle, kept] using messages
  | connect starting moved =>
    have step := RabbitMQPublisher.next_step moved
    refine ⟨tracked.step step, ?_, ?_, ?_⟩ <;> cases step
    · exact ⟨_, rfl⟩
    · exact fun cycle member => (past cycle member).grow List.prefix_rfl List.prefix_rfl
    · simpa only [State.allCycles, starting, Stage.cycle] using messages
  | begin ready _ =>
    rw [ready] at holds
    refine ⟨tracked, ⟨holds, ⟨⟨Nat.le_refl _, Nat.le_refl _, rfl⟩, rfl, rfl, rfl⟩, rfl⟩, past, ?_⟩
    simpa [State.allCycles, ready, Stage.cycle] using messages
  | fetched polling _ =>
    rw [polling] at holds
    obtain ⟨idle, ahead, unread⟩ := holds
    have fresh : _ = 0 := Nat.le_zero.mp (unread ▸ ahead.bound)
    refine ⟨tracked, ⟨idle, ⟨⟨?_, ahead.within, ?_⟩, ?_, ahead.current, ahead.uncompleted⟩, ?_⟩, past, ?_⟩
    · simp only [fresh, Nat.zero_le]
    · simp only [fresh, List.take_zero, List.map_nil]
    · simp only [fresh, List.drop_zero]
    · intro k small
      rw [fresh] at small
      cases small
    · simpa [State.allCycles, polling, Stage.cycle, fresh] using messages
  | unfetched polling =>
    rw [polling] at holds
    obtain ⟨idle, ahead, unread⟩ := holds
    have fresh : _ = 0 := Nat.le_zero.mp (unread ▸ ahead.bound)
    refine ⟨tracked, ⟨idle, ahead.toCarried, ?_, ?_, ?_⟩, past, ?_⟩
    · intro k small
      rw [fresh] at small
      cases small
    · intro short
      rw [unread] at short
      cases short
    · intro complete
      exact absurd complete (Bool.not_eq_true _ ▸ ahead.uncompleted)
    · simpa only [State.allCycles, polling, Stage.cycle] using messages
  | @publish now cycle state rest publisher publishing moved =>
    rw [publishing] at holds
    obtain ⟨_, ahead, returned⟩ := holds
    have step := RabbitMQPublisher.next_step moved
    obtain ⟨_, made, grown⟩ := step.publish
    obtain ⟨later, taken⟩ := ahead.publish now
    refine ⟨tracked.step step, ⟨Nat.succ_pos _, made ▸ later, ?_⟩, fun other member => ?_, ?_⟩
    · exact returned.grow grown
    · exact (past other member).grow (made ▸ List.prefix_append _ _) grown
    · have before := messages
      simp only [State.allCycles, publishing, Stage.cycle, Option.toList_some,
        List.flatMap_append, List.flatMap_singleton] at before ⊢
      rw [made, List.map_append, before, taken, List.append_assoc]
      rfl
  | @returned cycle rest again calling idle ended =>
    rw [calling] at holds
    obtain ⟨some_call, ahead, returned⟩ := holds
    have last := ahead.last some_call (tracked.idle_count idle) ended
    refine ⟨tracked, ⟨idle, ahead, fun k small => ?_⟩, past, ?_⟩
    · by_cases before : k < cycle.published - 1
      · exact returned k before
      · obtain rfl : k = cycle.published - 1 := by omega
        exact ⟨again, last⟩
    · simpa only [State.allCycles, calling, Stage.cycle] using messages
  | raised calling idle ended =>
    rw [calling] at holds
    obtain ⟨some_call, ahead, returned⟩ := holds
    have last := ahead.last some_call (tracked.idle_count idle) ended
    refine ⟨tracked, ⟨idle, ahead.toCarried, returned, fun _ => ⟨some_call, last⟩, ?_⟩, past, ?_⟩
    · intro complete
      exact absurd complete (Bool.not_eq_true _ ▸ ahead.uncompleted)
    · simpa only [State.allCycles, calling, Stage.cycle] using messages
  | touched complete | untouched complete =>
    rw [complete] at holds
    obtain ⟨idle, ahead, returned⟩ := holds
    have all := Nat.le_antisymm ahead.bound (List.drop_eq_nil_iff.mp ahead.ahead)
    refine ⟨tracked, ⟨idle, ⟨ahead.bound, ahead.within, ahead.states⟩, ?_, ?_, ?_⟩, past, ?_⟩
    · exact fun k small => returned k (Nat.lt_of_lt_of_le small (Nat.sub_le _ _))
    · exact fun short => absurd all (Nat.ne_of_lt short)
    · exact fun _ => ⟨all, returned⟩
    · simpa [State.allCycles, complete, Stage.cycle] using messages
  | pause pausing =>
    rw [pausing] at holds
    refine ⟨tracked, holds.1, fun other member => ?_, ?_⟩
    · rcases List.mem_append.mp member with before | own
      · exact past other before
      · exact List.mem_singleton.mp own ▸ holds.2
    · simpa [State.allCycles, pausing, Stage.cycle] using messages
  | wake sleeping _ =>
    rw [sleeping] at holds
    exact ⟨tracked, holds, past, by simpa only [State.allCycles, sleeping, Stage.cycle] using messages⟩
  | leave ready _ =>
    rw [ready] at holds
    exact ⟨tracked, holds, past, by simpa only [State.allCycles, ready, Stage.cycle] using messages⟩

theorem run_published {ls : List Label} {clock : ℚ}
    (run : Run (Steps (next pydantic settings)) (initial settings clock) ls s) : Published s :=
  run.invariant (fun published moved => published.step (next_step moved))
    (initial_published settings clock)

/-- The state vectors of a cycle are the accepted ones among the entries it was answered. -/
def Cycle.Read (pydantic : Pydantic) (cycle : Cycle) : Prop :=
  cycle.fetched = cycle.entries.filterMap (OpenSkyClient.accepted pydantic)

/-- What the cycles fetched, and when they touched the heartbeat file. -/
structure Logged (pydantic : Pydantic) (s : State) : Prop where
  read : ∀ cycle ∈ s.allCycles, cycle.Read pydantic
  beats : List.Forall₂ (fun cycle beat => cycle.start ≤ beat) (s.allCycles.filter Cycle.completed)
    s.heartbeats

theorem initial_logged (settings : Settings) (clock : ℚ) : Logged pydantic (initial settings clock) where
  read cycle member := by cases member
  beats := .nil

namespace Logged

theorem same (logged : Logged pydantic s) (cycles : t.allCycles = s.allCycles)
    (heartbeats : t.heartbeats = s.heartbeats) : Logged pydantic t where
  read := cycles ▸ logged.read
  beats := by
    rw [cycles, heartbeats]
    exact logged.beats

/-- The cycle at work is replaced by one which has not touched the file either. -/
theorem replaced (logged : Logged pydantic s) {cycle later : Cycle}
    (before : s.stage.cycle = some cycle) (after : t.stage.cycle = some later)
    (cycles : t.cycles = s.cycles) (heartbeats : t.heartbeats = s.heartbeats)
    (completed : cycle.completed = false ∧ later.completed = false)
    (read : cycle.Read pydantic → later.Read pydantic) : Logged pydantic t := by
  obtain ⟨all, beats⟩ := logged
  simp only [State.allCycles, before, Option.toList_some] at all beats
  constructor
  · intro other member
    simp only [State.allCycles, after, cycles, Option.toList_some] at member
    rcases List.mem_append.mp member with earlier | own
    · exact all other (List.mem_append_left _ earlier)
    · rw [List.mem_singleton.mp own]
      exact read (all cycle (List.mem_append_right _ List.mem_cons_self))
  · simp only [State.allCycles, after, cycles, heartbeats, Option.toList_some]
    simpa [List.filter_append, completed.1, completed.2] using beats

theorem step (logged : Logged pydantic s) (published : Published s) (timed : Timed settings s)
    (step : Step pydantic settings s label t) : Logged pydantic t := by
  have holds := published.holds
  cases step with
  | tick _ | signal => exact logged.same rfl rfl
  | publisher _ _ => exact logged.same (by simp only [State.allCycles, Stage.connected_cycle]) rfl
  | connect starting _ => exact logged.same (by simp only [State.allCycles, starting, Stage.cycle]) rfl
  | begin ready _ =>
    have past : s.allCycles = s.cycles := by simp [State.allCycles, ready, Stage.cycle]
    constructor
    · intro cycle member
      rcases List.mem_append.mp member with before | own
      · exact logged.read cycle (past ▸ before)
      · rw [List.mem_singleton.mp own]
        rfl
    · have beats := logged.beats
      rw [past] at beats
      simpa [State.allCycles, Stage.cycle] using beats
  | @fetched mets cycle fetched polling returned =>
    rw [polling] at holds
    obtain ⟨entries, answered, made⟩ := OpenSkyClient.fetchStates_ok returned
    have uncompleted := holds.2.1.uncompleted
    refine logged.replaced (by rw [polling]; rfl) rfl rfl rfl ⟨uncompleted, uncompleted⟩ fun _ => ?_
    simp only [Cycle.Read, answered]
    exact made
  | unfetched polling => exact logged.same (by simp only [State.allCycles, polling, Stage.cycle]) rfl
  | @publish now cycle state rest publisher publishing moved =>
    rw [publishing] at holds
    have uncompleted := holds.2.1.uncompleted
    exact logged.replaced (by rw [publishing]; rfl) rfl rfl rfl ⟨uncompleted, uncompleted⟩ id
  | returned calling _ _ | raised calling _ _ =>
    exact logged.same (by simp only [State.allCycles, calling, Stage.cycle]) rfl
  | @touched cycle complete =>
    rw [complete] at holds
    have before : s.allCycles = s.cycles ++ [cycle] := by simp [State.allCycles, complete, Stage.cycle]
    have own : cycle ∈ s.allCycles := before ▸ List.mem_append_right _ List.mem_cons_self
    constructor
    · intro other member
      rcases List.mem_append.mp member with earlier | last
      · exact logged.read other (before ▸ List.mem_append_left _ earlier)
      · rw [List.mem_singleton.mp last]
        exact logged.read cycle own
    · have beats := logged.beats
      rw [before, List.filter_append] at beats
      simp only [State.allCycles, Stage.cycle, Option.toList_some, List.filter_append]
      refine List.rel_append (by simpa [holds.2.1.uncompleted] using beats) ?_
      exact .cons (timed.begun cycle own) .nil
  | untouched complete => exact logged.same (by simp only [State.allCycles, complete, Stage.cycle]) rfl
  | pause pausing => exact logged.same (by simp [State.allCycles, pausing, Stage.cycle]) rfl
  | wake sleeping _ => exact logged.same (by simp only [State.allCycles, sleeping, Stage.cycle]) rfl
  | leave ready _ => exact logged.same (by simp only [State.allCycles, ready, Stage.cycle]) rfl

end Logged

theorem run_logged {ls : List Label} {clock : ℚ}
    (run : Run (Steps (next pydantic settings)) (initial settings clock) ls s) : Logged pydantic s := by
  induction run with
  | refl => exact initial_logged settings clock
  | next before moved ih =>
    exact ih.step (run_published before) (run_timed before) (next_step moved)

/-- A cycle whose calls have all returned touches the heartbeat file next, or raises there. -/
inductive Reported (s t : State) (cycle : Cycle) : Label → Prop where
  | waiting {label : Label} (other : ∀ touched, label ≠ .report touched) (same : t.stage = s.stage)
      (kept : t.heartbeats = s.heartbeats) : Reported s t cycle label
  | touched (completed : t.stage = .pausing { cycle with completed := true })
      (beat : t.heartbeats = s.heartbeats ++ [s.clock]) : Reported s t cycle (.report true)
  | raised (uncompleted : t.stage = .pausing cycle) (kept : t.heartbeats = s.heartbeats) :
      Reported s t cycle (.report false)

theorem Step.reported {cycle : Cycle} (step : Step pydantic settings s label t)
    (published : s.stage = .publishing cycle []) : Reported s t cycle label := by
  cases step with
  | tick _ | signal => exact .waiting nofun rfl rfl
  | @publisher own publisher _ _ =>
    refine .waiting nofun ?_ rfl
    rcases s.stage.connected_cases own publisher.phase with same | ⟨connecting, -⟩
    · exact same
    · rw [published] at connecting
      cases connecting
  | touched here =>
    obtain ⟨rfl, -⟩ := Stage.publishing.inj (published.symm.trans here)
    exact .touched rfl rfl
  | untouched here =>
    obtain ⟨rfl, -⟩ := Stage.publishing.inj (published.symm.trans here)
    exact .raised rfl rfl
  | publish here _ => cases published.symm.trans here
  | connect here _ | begin here _ | fetched here _ | unfetched here | returned here _ _ | raised here _ _
  | pause here | wake here _ | leave here _ => cases published.symm.trans here

/-- The account of the polls in a state of the service: what was published is
what the polls accepted, in order and each once, up to the call which ended a
poll early; the heartbeat file is touched by polls which published all, and by each
of them whose touch does not raise. -/
structure PollsAccounted (pydantic : Pydantic) (settings : Settings) (s : State) : Prop where
  read : ∀ cycle ∈ s.allCycles, cycle.Read pydantic
  messages : s.publisher.messages.map FlightMessage.state =
    s.allCycles.flatMap fun cycle => cycle.fetched.take cycle.published
  finished : ∀ cycle ∈ s.cycles, cycle.Accounted s.publisher
  beats : List.Forall₂ (fun cycle beat => cycle.start ≤ beat) (s.allCycles.filter Cycle.completed)
    s.heartbeats
  reported : ∀ cycle label t, s.stage = .publishing cycle [] → next pydantic settings s label = some t →
    Reported s t cycle label

theorem polls_accounted {ls : List Label} {clock : ℚ}
    (run : Run (Steps (next pydantic settings)) (initial settings clock) ls s) :
    PollsAccounted pydantic settings s := by
  have published := run_published run
  have logged := run_logged run
  exact ⟨logged.read, published.messages, published.past, logged.beats,
    fun _ _ _ all moved => (next_step moved).reported all⟩

def otherState : List Json := OpenSkyClient.shortState.set 0 (.str "738065")

def thirdState : List Json := OpenSkyClient.shortState.set 0 (.str "4b1805")

/-- The second of the three calls of the next cycle loses its connection and finds no other. -/
def abandonedCycle : List Label := fullCycle ++ [
  .fetch (OpenSkyClient.poll [.arr OpenSkyClient.shortState, .arr otherState, .arr thirdState]),
  .publish ⟨1735400024000000, by decide, by decide⟩, .publisher .send, .publisher .complete, .resume,
  .publish ⟨1735400025000000, by decide, by decide⟩, .publisher (.lose 0), .publisher .send,
  .publisher (.refuse .connection true false), .resume, .pause]

theorem polls_accounted_abandonedCycle : ∃ s, Run (Steps (next .strict {})) (initial {} 0) abandonedCycle s ∧
    s.cycles.map (fun cycle => (cycle.fetched.length, cycle.published, cycle.completed)) =
      [(1, 1, true), (3, 2, false)] ∧ s.heartbeats = [2] ∧ PollsAccounted .strict {} s := by
  have passed : (replay (next .strict {}) (initial {} 0) abandonedCycle).any (fun s =>
      s.cycles.map (fun cycle => (cycle.fetched.length, cycle.published, cycle.completed)) =
        [(1, 1, true), (3, 2, false)] ∧ s.heartbeats = [2]) = true := by decide +kernel
  obtain ⟨s, run, ended⟩ := run_of_test passed
  obtain ⟨cycles, beats⟩ := of_decide_eq_true ended
  exact ⟨s, run, cycles, beats, polls_accounted run⟩

end FlightHub.Ingestion
