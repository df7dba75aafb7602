import FlightHub.Ingestion.Cycles

/-! The loop of the ingestion service always comes round. Within a cycle its own
steps are bounded by what is left to publish, nothing it waits for can stop it,
and after the signal the cycle at work is the last. -/
namespace FlightHub.Ingestion
open Python Transition
variable {pydantic : Pydantic} {settings : Settings} {s t : State} {label : Label}

/-- The steps of the service between the head of the loop and its sleep, but for
the request itself. -/
def Label.isOwn : Label → Bool
  | .publisher label => label.isOwn
  | .connect | .publish _ | .resume | .report _ | .pause => true
  | _ => false

/-- The steps which begin or end a cycle, where the measure starts again. -/
def Label.isTurn : Label → Bool
  | .begin | .fetch _ | .wake | .leave => true
  | _ => false

/-- Publishing one state vector takes at most 24 steps of the publisher between
the call and the return. -/
def Stage.remaining (phase : RabbitMQPublisher.Phase) : Stage → Nat
  | .starting => 11
  | .connecting => phase.remaining
  | .publishing _ rest => 26 * rest.length + 2
  | .calling _ rest => phase.remaining + 26 * rest.length + 3
  | .pausing _ => 1
  | .ready | .polling _ | .sleeping _ | .stopped | .failed => 0

def State.remaining (s : State) : Nat := s.stage.remaining s.publisher.phase

/-- In the stages where it does not wait for the publisher, nothing of a call is left. -/
theorem Stage.Holds.idle {publisher : RabbitMQPublisher.State} {stage : Stage}
    (holds : stage.Holds publisher) (connected : stage ≠ .connecting)
    (uncalled : ∀ cycle rest, stage ≠ .calling cycle rest) : publisher.phase = .idle := by
  cases stage with
  | connecting => exact absurd rfl connected
  | calling cycle rest => exact absurd rfl (uncalled cycle rest)
  | polling cycle | publishing cycle rest | pausing cycle => exact holds.1
  | _ => exact holds

theorem publisher_lowers (published : Published s) {label : RabbitMQPublisher.Label}
    {publisher : RabbitMQPublisher.State} (own : label.isCall = false)
    (moved : RabbitMQPublisher.next s.publisher label = some publisher) :
    (s.stage.connected label publisher.phase).remaining publisher.phase + label.isOwn.toNat ≤
      s.stage.remaining s.publisher.phase := by
  have lower := RabbitMQPublisher.lowers moved own
  have holds := published.holds
  rcases s.stage.connected_cases label publisher.phase with same | ⟨connecting, ready | failed⟩
  · rw [same]
    by_cases idle : s.publisher.phase = .idle
    · have kept := ((RabbitMQPublisher.next_step moved).idle_kept own idle).1
      rw [idle, RabbitMQPublisher.Phase.remaining] at lower
      rw [kept, idle]
      omega
    · cases stage : s.stage with
      | connecting => exact lower
      | calling cycle rest =>
        simp only [Stage.remaining]
        omega
      | _ => exact absurd (holds.idle (by simp [stage]) (by simp [stage])) idle
  · rw [ready, connecting]
    simp only [Stage.remaining]
    omega
  · rw [failed, connecting]
    simp only [Stage.remaining]
    omega

theorem own_lowers (published : Published s) (step : Step pydantic settings s label t)
    (within : label.isTurn = false) : t.remaining + label.isOwn.toNat ≤ s.remaining := by
  cases step with
  | tick _ | signal => exact Nat.le_refl _
  | publisher own moved => exact publisher_lowers published own moved
  | connect starting moved =>
    cases RabbitMQPublisher.next_step moved
    simp [State.remaining, Stage.remaining, starting, RabbitMQPublisher.Phase.remaining, Label.isOwn,
      RabbitMQPublisher.connectAttempts]
  | begin _ _ | fetched _ _ | unfetched _ | wake _ _ | leave _ _ => cases within
  | publish publishing moved =>
    have bound := RabbitMQPublisher.publish_remaining moved
    simp only [State.remaining, Stage.remaining, publishing, Label.isOwn, Bool.toNat_true, List.length_cons]
    omega
  | returned calling _ _ =>
    simp only [State.remaining, Stage.remaining, calling, Label.isOwn, Bool.toNat_true]
    omega
  | raised calling _ _ =>
    simp only [State.remaining, Stage.remaining, calling, Label.isOwn, Bool.toNat_true]
    omega
  | touched complete | untouched complete => simp [State.remaining, Stage.remaining, complete, Label.isOwn]
  | pause pausing => simp [State.remaining, Stage.remaining, pausing, Label.isOwn]

/-- The head of the loop, the request, the sleep and the two ends of `run`. -/
def Stage.isTurn : Stage → Bool
  | .ready | .polling _ | .sleeping _ | .stopped | .failed => true
  | _ => false

/-- What the service does next. -/
inductive Task where
  | connect
  | publisher (task : RabbitMQPublisher.Task)
  | begin
  | fetch
  | publish
  | resume
  | report
  | pause
  | wake
  | leave

/-- What OpenSky, the broker, the clock and the file system may answer. -/
structure Answer where
  mets : Nat → OpenSkyClient.Attempt
  publisher : RabbitMQPublisher.Answer
  now : Datetime
  touched : Bool

def Task.answered (s : State) (answer : Answer) : Task → Label
  | .connect => .connect
  | .publisher task => .publisher (task.answered s.publisher answer.publisher)
  | .begin => .begin
  | .fetch => .fetch answer.mets
  | .publish => .publish answer.now
  | .resume => .resume
  | .report => .report answer.touched
  | .pause => .pause
  | .wake => .wake
  | .leave => .leave

/-- The service is at this task. It goes on however that is answered, and in no other way. -/
structure State.Awaits (pydantic : Pydantic) (settings : Settings) (s : State) (task : Task) : Prop where
  enabled : ∀ answer, (next pydantic settings s (task.answered s answer)).isSome = true
  only : ∀ label, (label.isOwn || label.isTurn) = true → (next pydantic settings s label).isSome = true →
    ∃ answer, label = task.answered s answer

def quiet : Answer where
  mets _ := ⟨0, ⟨.transportError, 0⟩, fun _ => .transportError⟩
  publisher := ⟨none, false⟩
  now := ⟨0, by decide, by decide⟩
  touched := true

section Awaits

/-- Between two calls the publisher takes no step of its own. -/
theorem publisher_idle (idle : s.publisher.phase = .idle) {label : RabbitMQPublisher.Label}
    (own : label.isOwn = true) : next pydantic settings s (.publisher label) = none := by
  cases label with
  | ready | refuse _ _ _ | send | complete | fail =>
    simp only [next, RabbitMQPublisher.Label.isCall, RabbitMQPublisher.next, idle, Bool.false_eq_true, if_false,
      Option.map_none]
  | _ => cases own

theorem publisher_own {label : RabbitMQPublisher.Label} (own : (Label.isOwn (.publisher label) ||
    Label.isTurn (.publisher label)) = true) : label.isOwn = true := by
  simpa only [Label.isOwn, Label.isTurn, Bool.or_false] using own

theorem publisher_isSome {label : RabbitMQPublisher.Label} (uncalled : label.isCall = false) :
    (next pydantic settings s (.publisher label)).isSome =
      (RabbitMQPublisher.next s.publisher label).isSome := by
  simp only [next, uncalled, Bool.false_eq_true, if_false, Option.isSome_map]

theorem answered_uncalled (p : RabbitMQPublisher.State) (answer : RabbitMQPublisher.Answer)
    (task : RabbitMQPublisher.Task) : (task.answered p answer).isCall = false := by
  cases task with
  | attempt =>
    simp only [RabbitMQPublisher.Task.answered]
    split <;> rfl
  | send => rfl
  | finish =>
    simp only [RabbitMQPublisher.Task.answered]
    split <;> rfl

/-- While the publisher is at work, the service waits for it. -/
theorem awaits_publisher {task : RabbitMQPublisher.Task} (awaits : s.publisher.Awaits task)
    (waiting : s.stage = .connecting ∨ ∃ cycle rest, s.stage = .calling cycle rest)
    (working : s.publisher.phase ≠ .idle) : s.Awaits pydantic settings (.publisher task) where
  enabled answer := by
    rw [Task.answered, publisher_isSome (answered_uncalled _ _ _)]
    exact awaits.enabled answer.publisher
  only label own moved := by
    cases label with
    | publisher label =>
      have own := publisher_own own
      have uncalled : label.isCall = false := by
        cases label <;> first | rfl | cases own
      rw [publisher_isSome uncalled] at moved
      obtain ⟨answer, rfl⟩ := awaits.only label own moved
      exact ⟨{ quiet with publisher := answer }, rfl⟩
    | tick _ | signal => cases own
    | resume =>
      rcases waiting with connecting | ⟨cycle, rest, calling⟩
      · simp [next, connecting] at moved
      · simp only [next, calling] at moved
        split at moved
        · next idle _ => exact absurd idle working
        · next idle _ => exact absurd idle working
        · cases moved
    | _ =>
      rcases waiting with connecting | ⟨cycle, rest, calling⟩
      · simp [next, connecting] at moved
      · simp [next, calling] at moved

/-- The task of a stage at which the publisher rests. -/
def State.task (s : State) : Option Task :=
  match s.stage with
  | .starting => some .connect
  | .ready => some (if s.shutdownRequested then .leave else .begin)
  | .polling _ => some .fetch
  | .publishing _ [] => some .report
  | .publishing _ (_ :: _) => some .publish
  | .calling _ _ => some .resume
  | .pausing _ => some .pause
  | .sleeping _ => some .wake
  | .connecting | .stopped | .failed => none

/-- Where the publisher rests, the steps of the service are those of its stage. -/
theorem step_task (idle : s.publisher.phase = .idle) (own : (label.isOwn || label.isTurn) = true)
    (step : Step pydantic settings s label t) :
    ∃ task answer, s.task = some task ∧ label = task.answered s answer := by
  cases step with
  | tick _ | signal => cases own
  | publisher uncalled moved =>
    have stuck := @publisher_idle pydantic settings s idle _ (publisher_own own)
    simp only [next, uncalled, Bool.false_eq_true, if_false, moved, Option.map_some, reduceCtorEq] at stuck
  | connect starting _ => exact ⟨.connect, quiet, by simp only [State.task, starting], rfl⟩
  | begin ready running =>
    exact ⟨.begin, quiet, by simp only [State.task, ready, running, Bool.false_eq_true, if_false], rfl⟩
  | @fetched mets _ _ polling _ | @unfetched mets _ polling =>
    exact ⟨.fetch, { quiet with mets }, by simp only [State.task, polling], rfl⟩
  | @publish now _ _ _ _ publishing _ =>
    exact ⟨.publish, { quiet with now }, by simp only [State.task, publishing], rfl⟩
  | returned calling _ _ | raised calling _ _ =>
    exact ⟨.resume, quiet, by simp only [State.task, calling], rfl⟩
  | touched published =>
    exact ⟨.report, { quiet with touched := true }, by simp only [State.task, published], rfl⟩
  | untouched published =>
    exact ⟨.report, { quiet with touched := false }, by simp only [State.task, published], rfl⟩
  | pause pausing => exact ⟨.pause, quiet, by simp only [State.task, pausing], rfl⟩
  | wake sleeping _ => exact ⟨.wake, quiet, by simp only [State.task, sleeping], rfl⟩
  | leave ready requested =>
    exact ⟨.leave, quiet, by simp only [State.task, ready, requested, if_true], rfl⟩

theorem awaits_task (idle : s.publisher.phase = .idle) {task : Task} (at_task : s.task = some task)
    (enabled : ∀ answer, (next pydantic settings s (task.answered s answer)).isSome = true) :
    s.Awaits pydantic settings task where
  enabled := enabled
  only label own moved := by
    obtain ⟨t, moved⟩ := Option.isSome_iff_exists.mp moved
    obtain ⟨other, answer, at_other, rfl⟩ := step_task idle own (next_step moved)
    obtain rfl := Option.some.inj (at_other.symm.trans at_task)
    exact ⟨answer, rfl⟩

theorem awaits_connect (idle : s.publisher.phase = .idle) (stage : s.stage = .starting) :
    s.Awaits pydantic settings .connect := by
  apply awaits_task idle (by simp only [State.task, stage])
  intro answer
  simp only [Task.answered, next, stage, RabbitMQPublisher.next, if_pos idle, Option.map_some,
    Option.isSome_some]

theorem awaits_report {cycle : Cycle} (idle : s.publisher.phase = .idle)
    (stage : s.stage = .publishing cycle []) : s.Awaits pydantic settings .report := by
  apply awaits_task idle (by simp only [State.task, stage])
  intro answer
  simp only [Task.answered, next, stage]
  split <;> rfl

theorem awaits_publish {cycle : Cycle} {state : StateVector} {rest : List StateVector}
    (idle : s.publisher.phase = .idle) (stage : s.stage = .publishing cycle (state :: rest)) :
    s.Awaits pydantic settings .publish := by
  apply awaits_task idle (by simp only [State.task, stage])
  intro answer
  simp only [Task.answered, next, stage, RabbitMQPublisher.next, if_pos idle, Option.isSome_map]
  split
  · rfl
  · split <;> rfl

theorem awaits_resume {cycle : Cycle} {rest : List StateVector} {outcome : RabbitMQPublisher.Outcome}
    (idle : s.publisher.phase = .idle) (stage : s.stage = .calling cycle rest)
    (ended : s.publisher.outcomes.getLast? = some outcome) : s.Awaits pydantic settings .resume := by
  apply awaits_task idle (by simp only [State.task, stage])
  intro answer
  cases outcome <;> simp only [Task.answered, next, stage, idle, ended, Option.isSome_some]

theorem awaits_pause {cycle : Cycle} (idle : s.publisher.phase = .idle)
    (stage : s.stage = .pausing cycle) : s.Awaits pydantic settings .pause := by
  apply awaits_task idle (by simp only [State.task, stage])
  intro answer
  simp only [Task.answered, next, stage, Option.isSome_some]

theorem awaits_begin (idle : s.publisher.phase = .idle) (stage : s.stage = .ready)
    (running : s.shutdownRequested = false) : s.Awaits pydantic settings .begin := by
  apply awaits_task idle (by simp only [State.task, stage, running, Bool.false_eq_true, if_false])
  intro answer
  simp only [Task.answered, next, stage, running, Bool.false_eq_true, if_false, Option.isSome_some]

theorem awaits_leave (idle : s.publisher.phase = .idle) (stage : s.stage = .ready)
    (requested : s.shutdownRequested = true) : s.Awaits pydantic settings .leave := by
  apply awaits_task idle (by simp only [State.task, stage, requested, if_true])
  intro answer
  simp only [Task.answered, next, stage, requested, if_true, Option.isSome_some]

theorem awaits_fetch {cycle : Cycle} (idle : s.publisher.phase = .idle)
    (stage : s.stage = .polling cycle) : s.Awaits pydantic settings .fetch := by
  apply awaits_task idle (by simp only [State.task, stage])
  intro answer
  simp only [Task.answered, next, stage]
  split <;> rfl

theorem awaits_wake {deadline : ℚ} (idle : s.publisher.phase = .idle)
    (stage : s.stage = .sleeping deadline) (due : deadline ≤ s.clock) :
    s.Awaits pydantic settings .wake := by
  apply awaits_task idle (by simp only [State.task, stage])
  intro answer
  simp only [Task.answered, next, stage, if_pos due, Option.isSome_some]

/-- Between the turns of the loop the service awaits something. -/
theorem own_awaits (published : Published s) (linked : s.publisher.Linked)
    (within : s.stage.isTurn = false) : ∃ task, s.Awaits pydantic settings task := by
  have holds := published.holds
  cases stage : s.stage with
  | starting =>
    rw [stage] at holds
    exact ⟨.connect, awaits_connect holds stage⟩
  | connecting =>
    rw [stage] at holds
    obtain ⟨left, connecting⟩ := holds
    have working : s.publisher.phase ≠ .idle := by simp [connecting]
    obtain ⟨task, awaits⟩ := linked.awaits working
    exact ⟨.publisher task, awaits_publisher awaits (.inl stage) working⟩
  | publishing cycle rest =>
    rw [stage] at holds
    cases rest with
    | nil => exact ⟨.report, awaits_report holds.1 stage⟩
    | cons state rest => exact ⟨.publish, awaits_publish holds.1 stage⟩
  | calling cycle rest =>
    by_cases idle : s.publisher.phase = .idle
    · rw [stage] at holds
      have count := published.tracked.idle_count idle
      have current := holds.2.1.current
      have some_call := holds.1
      cases ended : s.publisher.outcomes.getLast? with
      | none =>
        rw [List.getLast?_eq_none_iff] at ended
        rw [ended, List.length_nil] at count
        omega
      | some outcome => exact ⟨.resume, awaits_resume idle stage ended⟩
    · obtain ⟨task, awaits⟩ := linked.awaits idle
      exact ⟨.publisher task, awaits_publisher awaits (.inr ⟨cycle, rest, stage⟩) idle⟩
  | pausing cycle =>
    rw [stage] at holds
    exact ⟨.pause, awaits_pause holds.1 stage⟩
  | _ => simp [stage, Stage.isTurn] at within

/-- The state a while later. -/
def State.after (s : State) (elapsed : ℚ) : State := { s with clock := s.clock + elapsed }

/-- At a turn the loop goes on, if need be after a while. -/
theorem turn_awaits (published : Published s) (turn : s.stage.isTurn = true)
    (running : s.stage ≠ .stopped ∧ s.stage ≠ .failed) :
    ∃ elapsed task, 0 ≤ elapsed ∧ (s.after elapsed).Awaits pydantic settings task := by
  have idle : s.publisher.phase = .idle := by
    apply published.holds.idle
    · rintro connecting
      simp [connecting, Stage.isTurn] at turn
    · rintro cycle rest calling
      simp [calling, Stage.isTurn] at turn
  have at_once {task : Task} (awaits : s.Awaits pydantic settings task) :
      ∃ elapsed task, 0 ≤ elapsed ∧ (s.after elapsed).Awaits pydantic settings task :=
    ⟨0, task, le_rfl, by rwa [State.after, add_zero]⟩
  cases stage : s.stage with
  | ready =>
    cases requested : s.shutdownRequested with
    | false => exact at_once (awaits_begin idle stage requested)
    | true => exact at_once (awaits_leave idle stage requested)
  | polling cycle => exact at_once (awaits_fetch idle stage)
  | sleeping deadline =>
    have due : deadline ≤ (s.after (max 0 (deadline - s.clock))).clock := by
      have := le_max_right 0 (deadline - s.clock)
      simp only [State.after]
      linarith
    exact ⟨_, .wake, le_max_left _ _, awaits_wake idle stage due⟩
  | stopped => exact absurd stage running.1
  | failed => exact absurd stage running.2
  | _ => simp [stage, Stage.isTurn] at turn

end Awaits

/-- Only the call of `connect` before the loop can make `run` raise, and only a
signal can end the loop. -/
structure Ends (s : State) : Prop where
  before : s.stage = .starting ∨ s.stage = .connecting ∨ s.stage = .failed → s.allCycles = []
  stopped : s.stage = .stopped → s.shutdownRequested = true

theorem initial_ends (settings : Settings) (clock : ℚ) : Ends (initial settings clock) where
  before _ := rfl
  stopped ended := by cases ended

theorem Ends.step (ends : Ends s) (step : Step pydantic settings s label t) : Ends t := by
  cases step with
  | tick _ => exact ⟨ends.before, ends.stopped⟩
  | signal => exact ⟨ends.before, fun _ => rfl⟩
  | @publisher label publisher own moved =>
    have cycles : s.cycles ++ (s.stage.connected label publisher.phase).cycle.toList = s.allCycles := by
      rw [Stage.connected_cycle]
      rfl
    rcases s.stage.connected_cases label publisher.phase with same | ⟨connecting, ready | failed⟩
    · simp only [same]
      exact ⟨ends.before, ends.stopped⟩
    · exact ⟨fun _ => cycles.trans (ends.before (.inr (.inl connecting))),
        by simp [ready]⟩
    · exact ⟨fun _ => cycles.trans (ends.before (.inr (.inl connecting))),
        by simp [failed]⟩
  | connect starting _ =>
    refine ⟨fun _ => ?_, by simp⟩
    simpa only [State.allCycles, starting, Stage.cycle] using ends.before (.inl starting)
  | leave _ requested => exact ⟨by simp, fun _ => requested⟩
  | _ => exact ⟨by simp, by simp⟩

/-- No cycle begins once the signal has come. -/
theorem last_cycle (step : Step pydantic settings s label t) (requested : s.shutdownRequested = true) :
    t.shutdownRequested = true ∧ t.allCycles.length = s.allCycles.length := by
  cases step with
  | tick _ => exact ⟨requested, rfl⟩
  | signal => exact ⟨rfl, rfl⟩
  | publisher _ _ => exact ⟨requested, by simp only [State.allCycles, Stage.connected_cycle]⟩
  | connect starting _ => exact ⟨requested, by simp only [State.allCycles, starting, Stage.cycle]⟩
  | begin _ running => exact absurd requested (Bool.not_eq_true _ ▸ running)
  | fetched polling _ | unfetched polling =>
    exact ⟨requested, by simp [State.allCycles, polling, Stage.cycle]⟩
  | publish publishing _ => exact ⟨requested, by simp [State.allCycles, publishing, Stage.cycle]⟩
  | returned calling _ _ | raised calling _ _ =>
    exact ⟨requested, by simp [State.allCycles, calling, Stage.cycle]⟩
  | touched complete | untouched complete =>
    exact ⟨requested, by simp [State.allCycles, complete, Stage.cycle]⟩
  | pause pausing => exact ⟨requested, by simp [State.allCycles, pausing, Stage.cycle]⟩
  | wake sleeping _ => exact ⟨requested, by simp [State.allCycles, sleeping, Stage.cycle]⟩
  | leave ready _ => exact ⟨requested, by simp [State.allCycles, ready, Stage.cycle]⟩

theorem publisher_linked (linked : s.publisher.Linked) (step : Step pydantic settings s label t) :
    t.publisher.Linked := by
  cases step with
  | publisher _ moved | connect _ moved | publish _ moved => exact linked.step moved
  | _ => exact linked

theorem run_linked {ls : List Label} {clock : ℚ}
    (run : Run (Steps (next pydantic settings)) (initial settings clock) ls s) :
    s.publisher.Linked := by
  induction run with
  | refl => exact RabbitMQPublisher.run_linked .refl
  | next _ moved ih => exact publisher_linked ih (next_step moved)

/-- The steps between two turns of the loop, the environment's among them. -/
def WithinStep (pydantic : Pydantic) (settings : Settings) : State → Label → State → Prop :=
  Meeting (Steps (next pydantic settings)) fun _ label => label.isTurn = false

/-- From this state on the loop comes round: up to its next turn it goes on however it
is answered and takes a bounded number of steps, at a turn it goes on as well, and it
ends by a signal alone, after the cycle at work. -/
structure ComesRound (pydantic : Pydantic) (settings : Settings) (s : State) : Prop where
  bounded : ∀ ls t, Run (WithinStep pydantic settings) s ls t → ls.countP Label.isOwn ≤ s.remaining
  unstuck : ∀ ls t, Run (WithinStep pydantic settings) s ls t → t.stage.isTurn = true ∨
    ∃ task, t.Awaits pydantic settings task
  turns : s.stage.isTurn = true → s.stage ≠ .stopped ∧ s.stage ≠ .failed →
    ∃ elapsed task, 0 ≤ elapsed ∧ (s.after elapsed).Awaits pydantic settings task
  ends : Ends s
  last : s.shutdownRequested = true → ∀ ls t, Run (Steps (next pydantic settings)) s ls t →
    t.allCycles.length = s.allCycles.length

theorem loop_comes_round {ls : List Label} {clock : ℚ}
    (run : Run (Steps (next pydantic settings)) (initial settings clock) ls s) :
    ComesRound pydantic settings s := by
  constructor
  · intro ms t within
    have descends : ∀ u label v, Published u → WithinStep pydantic settings u label v →
        Published v ∧ v.remaining + label.isOwn.toNat ≤ u.remaining :=
      fun _ _ _ published moved => ⟨published.step (next_step moved.1),
        own_lowers published (next_step moved.1) moved.2⟩
    exact Nat.le_of_add_right_le (within.countP_le descends (run_published run)).2
  · intro ms t within
    have reached := run.trans within.forget
    cases turn : t.stage.isTurn with
    | true => exact .inl rfl
    | false => exact .inr (own_awaits (run_published reached) (run_linked reached) turn)
  · exact turn_awaits (run_published run)
  · exact run.invariant (fun ends moved => ends.step (next_step moved)) (initial_ends settings clock)
  · intro requested ms t rest
    have kept : t.shutdownRequested = true ∧ t.allCycles.length = s.allCycles.length := by
      induction rest with
      | refl => exact ⟨requested, rfl⟩
      | next _ moved ih =>
        obtain ⟨later, same⟩ := last_cycle (next_step moved) ih.1
        exact ⟨later, same.trans ih.2⟩
    exact kept.2

theorem loop_comes_round_fullCycle : ∃ s, Run (Steps (next .strict {})) (initial {} 0) fullCycle s ∧
    s.polls = [0, 12] ∧ ComesRound .strict {} s := by
  obtain ⟨s, run, polls, _⟩ := fullCycle_run
  exact ⟨s, run, polls, loop_comes_round run⟩

end FlightHub.Ingestion
