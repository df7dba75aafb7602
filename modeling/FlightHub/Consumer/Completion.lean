import FlightHub.Consumer.Enrichment
import FlightHub.Consumer.Progress

/-! The consumer with its weather client never gets stuck. A call of `get_weather`
takes six steps at most, whatever the other calls do and whatever Open-Meteo
answers, so the workers come to the end of what is queued. -/
namespace FlightHub.WeatherClient
open Python Transition

/-- What a call does next. -/
inductive Turn where
  | readClock
  | readCache
  | startFetch
  | endFetch
  | writeCache

def Turn.label (id : CallId) (exchange : Nat → Http.Outcome) : Turn → Label
  | .readClock => .readClock id
  | .readCache => .readCache id
  | .startFetch => .startFetch id
  | .endFetch => .endFetch id exchange
  | .writeCache => .writeCache id

variable {client : WeatherClient} {pydantic : Pydantic} {s t : State} {label : Label} {id : CallId}

/-- The steps which a call takes at most. -/
def Call.remaining : Call → Nat
  | .idle => 6
  | .entered _ => 5
  | .timed _ _ => 4
  | .missed _ _ => 3
  | .fetching _ _ => 2
  | .fetched _ _ _ => 1
  | .returned _ _ | .raised _ => 0

theorem Call.remaining_le (call : Call) : call.remaining ≤ 6 := by
  cases call <;> simp [Call.remaining]

theorem enter_remaining (lat lon : Option ℚ) : (client.enter lat lon).remaining ≤ 5 := by
  rcases client.enter_cases lat lon with ⟨key, entered⟩ | ⟨exception, entered⟩ | entered <;>
    simp [entered, Call.remaining]

theorem conclude_remaining (key : GridKey) (now : ℚ) (outcome : Except Exception (Option WeatherReading)) :
    (conclude key now outcome).remaining ≤ 1 := by
  unfold conclude
  split <;> simp [Call.remaining]

theorem Step.lowers (step : Step client pydantic s label t) (own : label.caller = some id) :
    (t.calls id).remaining < (s.calls id).remaining := by
  cases step with
  | tick later => cases own
  | call idle =>
    cases own
    simp only [State.set, Function.update_self, idle]
    exact Nat.lt_succ_of_le (enter_remaining _ _)
  | endFetch fetching logged =>
    cases own
    simp only [State.set, State.log, Function.update_self, fetching]
    exact Nat.lt_succ_of_le (conclude_remaining _ _ _)
  | readClock at_call | hit at_call _ _ | miss at_call _ | startFetch at_call | writeCache at_call =>
    cases own
    simp only [State.set, State.log, Function.update_self, at_call, Call.remaining]
    decide

/-- A call which has begun ends, or can go on whatever it is answered. -/
theorem Inv.turn (inv : Inv client s) (pydantic : Pydantic) (begun : s.calls id ≠ .idle) :
    (s.calls id).remaining = 0 ∨ ∃ turn : Turn, ∀ exchange,
      (next client pydantic s (turn.label id exchange)).isSome = true := by
  have backed := inv.calls id
  cases at_call : s.calls id with
  | idle => exact absurd at_call begun
  | entered key => exact .inr ⟨.readClock, fun exchange => by simp [Turn.label, next, at_call]⟩
  | timed key now => exact .inr ⟨.readCache, fun exchange => by simp [Turn.label, next, at_call]⟩
  | missed key now => exact .inr ⟨.startFetch, fun exchange => by simp [Turn.label, next, at_call]⟩
  | fetching key now =>
    rw [at_call] at backed
    obtain ⟨fetch, logged, _⟩ := backed
    exact .inr ⟨.endFetch, fun exchange => by simp [Turn.label, next, at_call, logged]⟩
  | fetched key now reading => exact .inr ⟨.writeCache, fun exchange => by simp [Turn.label, next, at_call]⟩
  | returned own reading => exact .inl rfl
  | raised exception => exact .inl rfl

end FlightHub.WeatherClient

namespace FlightHub.Enrichment
open Python Postgres Transition

/-- What the IO thread or a worker does next. -/
inductive Task where
  | consumer (task : Consumer.Task)
  | getWeather (tag : Consumer.Tag)
  | weather (tag : Consumer.Tag) (turn : WeatherClient.Turn)
  | process (tag : Consumer.Tag)

def Task.label (answer : Consumer.Answer) (exchange : Nat → Http.Outcome) : Task → Label
  | .consumer task => .consumer (task.label answer)
  | .getWeather tag => .getWeather tag
  | .weather tag turn => .weather (turn.label tag exchange)
  | .process tag => .process tag

def Label.Own (label : Label) : Prop := ∃ (task : Task) (answer : Consumer.Answer) (exchange : Nat → Http.Outcome),
  label = task.label answer exchange

/-- The task can be taken, whatever it is answered. -/
def State.Enabled (world : World) (s : State) (task : Task) : Prop :=
  ∀ answer exchange, (next world s (task.label answer exchange)).isSome = true

def OwnStep (world : World) : State → Label → State → Prop :=
  Meeting (Steps (next world)) fun _ label => label.Own

variable {world : World} {s t : State} {label : Label} {tag : Consumer.Tag}

/-! ### The steps which are left -/

def State.lookupSteps (s : State) : Nat :=
  ((List.range s.consumer.deliveries.length).map fun tag => (s.weather.calls tag).remaining).sum

/-- A delivery adds a call of six steps, and is one step of the service itself. -/
def State.remainingSteps (s : State) : Nat := 7 * s.consumer.remainingSteps + s.lookupSteps

structure Reached (world : World) (s : State) : Prop where
  linked : Linked world s
  consumer : Consumer.Reached world.driver .empty s.consumer

theorem Reached.step (positive : 0 < world.client.cacheTtlSeconds) (reached : Reached world s)
    (step : Step world s label t) : Reached world t where
  linked := reached.linked.step positive step
  consumer := by
    rcases step.consumer_moves with same | ⟨own, moved⟩
    · rw [same]
      exact reached.consumer
    · exact reached.consumer.step (Consumer.next_step moved)

theorem run_reached {ls : List Label} {clock : ℚ} (positive : 0 < world.client.cacheTtlSeconds)
    (run : Run (Steps (next world)) (initial clock) ls s) : Reached world s := by
  obtain ⟨ms, own⟩ := run_consumer run
  exact ⟨run_linked positive run, Consumer.run_reached own⟩

theorem received_delivered (reached : Reached world s)
    (received : s.consumer.running.lookup tag = some .received) : tag < s.consumer.deliveries.length :=
  reached.consumer.custody.delivered (List.mem_append_left _ (List.mem_append_left _
    (List.mem_append_left _ (List.mem_append_right _ (Consumer.mem_keys_of_lookup received)))))

theorem lookupSteps_moved {label : WeatherClient.Label} {weather : WeatherClient.State}
    (reached : Reached world s) (moved : weatherNext world s.weather label = some weather)
    (own : label.caller = some tag) (received : s.consumer.running.lookup tag = some .received) :
    ({ s with weather } : State).remainingSteps < s.remainingSteps := by
  have step := WeatherClient.next_step moved
  have lowered := step.lowers own
  have others : ∀ other ≠ tag, (weather.calls other).remaining = (s.weather.calls other).remaining := by
    intro other differs
    have foreign : label.caller ≠ some other := by
      rw [own]
      simpa using Ne.symm differs
    rw [(step.others foreign).1]
  have sums : ((List.range s.consumer.deliveries.length).map fun tag => (weather.calls tag).remaining).sum +
      (s.weather.calls tag).remaining =
      ((List.range s.consumer.deliveries.length).map fun tag => (s.weather.calls tag).remaining).sum +
        (weather.calls tag).remaining :=
    sum_map_moved List.nodup_range (List.mem_range.mpr (received_delivered reached received)) others
  simp only [State.remainingSteps, State.lookupSteps]
  omega

theorem deliveries_grow {label : Consumer.Label} {u v : Consumer.State}
    (moved : consumerNext world u label = some v) :
    v.deliveries.length = u.deliveries.length ∨ v.deliveries.length = u.deliveries.length + 1 := by
  cases Consumer.next_step moved with
  | deliver _ _ _ => exact .inr (by simp [Consumer.State.onMessage])
  | schedule _ =>
    unfold Consumer.State.addCallback
    split <;> exact .inl rfl
  | _ => exact .inl rfl

theorem consumer_lowers {label : Consumer.Label} {consumer : Consumer.State} (reached : Reached world s)
    (own : label.Own) (moved : consumerNext world s.consumer label = some consumer) :
    ({ s with consumer } : State).remainingSteps < s.remainingSteps := by
  have fewer := Consumer.own_lowers reached.consumer.custody reached.consumer.engaged
    (Consumer.next_step moved) own
  have begun := (s.weather.calls s.consumer.deliveries.length).remaining_le
  simp only [State.remainingSteps, State.lookupSteps]
  rcases deliveries_grow moved with same | grown
  · rw [same]
    omega
  · rw [grown, List.range_succ, List.map_append, List.sum_append, List.map_singleton, List.sum_singleton]
    omega

theorem own_lowers (reached : Reached world s) (step : Step world s label t) (own : label.Own) :
    t.remainingSteps < s.remainingSteps := by
  obtain ⟨task, answer, exchange, same⟩ := own
  cases step with
  | consumer _ moved =>
    cases task with
    | consumer task =>
      cases same
      exact consumer_lowers reached ⟨task, answer, rfl⟩ moved
    | _ => cases same
  | restart _ =>
    cases task with
    | consumer task => cases task <;> cases same
    | _ => cases same
  | weather admitted moved =>
    cases task with
    | weather tag turn =>
      cases same
      have caller : (turn.label tag exchange).caller = some tag := by cases turn <;> rfl
      have received : s.consumer.running.lookup tag = some .received := by
        cases turn <;> simpa [State.admits, WeatherClient.Turn.label, WeatherClient.Label.caller] using admitted
      exact lookupSteps_moved reached moved caller received
    | _ => cases same
  | getWeather received body moved => exact lookupSteps_moved reached moved rfl received
  | @process tag lookup _ _ moved =>
    exact consumer_lowers reached ⟨.enrich tag, ⟨lookup, answer.statement, answer.commit, answer.clock⟩, rfl⟩ moved

theorem own_descends (positive : 0 < world.client.cacheTtlSeconds) :
    Descends (OwnStep world) (Reached world) State.remainingSteps := by
  intro s label t reached moved
  have step := next_step moved.1
  exact ⟨reached.step positive step, own_lowers reached step moved.2⟩

/-! ### No worker waits for ever -/

theorem process_enabled (enabled : s.consumer.Enabled world.settings world.driver (.enrich tag))
    {lookup : Option (Option WeatherReading)} (looked : s.lookup tag = some lookup) :
    s.Enabled world (.process tag) := by
  intro answer exchange
  obtain ⟨consumer, moved⟩ := Option.isSome_iff_exists.mp (enabled { answer with lookup })
  have called : consumerNext world s.consumer (.enrich tag lookup) = some consumer := moved
  simp only [Task.label, next, looked, called, Option.bind_eq_bind, Option.bind_some, Option.isSome_some]

/-- A worker which is at the lookup begins it, goes on with it or leaves it. -/
theorem lookup_enabled (reached : Reached world s)
    (received : s.consumer.running.lookup tag = some .received)
    (enabled : s.consumer.Enabled world.settings world.driver (.enrich tag)) :
    ∃ task, s.Enabled world task := by
  obtain ⟨body, found⟩ := reached.consumer.engaged.body (received_delivered reached received)
  cases body with
  | none =>
    have looked : s.lookup tag = some none := by simp only [State.lookup, found]
    exact ⟨.process tag, process_enabled enabled looked⟩
  | some message =>
    by_cases idle : s.weather.calls tag = .idle
    · refine ⟨.getWeather tag, fun answer exchange => ?_⟩
      simp [Task.label, next, received, found, weatherNext, WeatherClient.next, idle]
    rcases reached.linked.weather.turn world.pydantic idle with complete | ⟨turn, moves⟩
    · obtain ⟨lookup, looked⟩ : ∃ lookup, s.lookup tag = some lookup := by
        simp only [State.lookup, found]
        cases at_call : s.weather.calls tag with
        | returned own reading => exact ⟨some reading, rfl⟩
        | raised exception => exact ⟨none, rfl⟩
        | _ => simp [at_call, WeatherClient.Call.remaining] at complete
      exact ⟨.process tag, process_enabled enabled looked⟩
    · refine ⟨.weather tag turn, fun answer exchange => ?_⟩
      have admitted : s.admits (turn.label tag exchange) = true := by
        cases turn <;> simp [State.admits, WeatherClient.Turn.label, WeatherClient.Label.caller, received]
      simp only [Task.label, next, admitted, if_true, Option.isSome_map]
      exact moves exchange

theorem plain_enabled {task : Consumer.Task} (others : ∀ tag, task ≠ .enrich tag)
    (enabled : s.consumer.Enabled world.settings world.driver task) : s.Enabled world (.consumer task) := by
  intro answer exchange
  have moves : (consumerNext world s.consumer (task.label answer)).isSome = true := enabled answer
  cases task with
  | enrich tag => exact absurd rfl (others tag)
  | _ =>
    simp only [Task.label, Consumer.Task.label, next, plain, if_true, Option.isSome_map] at moves ⊢
    exact moves

theorem progress (workers : 0 < world.settings.consumerWorkerThreads) (reached : Reached world s) :
    s.consumer.Idle ∨ ∃ task, s.Enabled world task := by
  have moves : s.consumer.Idle ∨ ∃ task, s.consumer.Enabled world.settings world.driver task :=
    Consumer.progress reached.consumer.custody reached.consumer.engaged reached.consumer.repository workers
  rcases moves with idle | ⟨task, enabled⟩
  · exact .inl idle
  refine .inr ?_
  by_cases others : ∀ tag, task ≠ .enrich tag
  · exact ⟨.consumer task, plain_enabled others enabled⟩
  · simp only [not_forall, not_not] at others
    obtain ⟨tag, rfl⟩ := others
    have received : s.consumer.running.lookup tag = some .received := by
      have moves := enabled ⟨none, .accepted, .accepted, 0⟩
      simp only [Consumer.Task.label, Consumer.next] at moves
      split at moves
      · assumption
      · cases moves
    exact lookup_enabled reached received enabled

/-- From this state on no outside event is needed: the schedules of the service's
own steps, those of the lookups among them, are bounded and nowhere stuck, and
where one ends every published message has been settled once. -/
structure Drains (world : World) (s : State) : Prop where
  bounded : ∀ ls t, Run (OwnStep world) s ls t → ls.length + t.remainingSteps ≤ s.remainingSteps
  unstuck : ∀ ls t, Run (OwnStep world) s ls t → t.consumer.Idle ∨ ∃ task, t.Enabled world task
  finishes : ∃ ls t, Run (OwnStep world) s ls t ∧ t.consumer.Idle
  settled : s.consumer.phase = .consuming → ∀ ls t, Run (OwnStep world) s ls t → t.consumer.Idle →
    (t.consumer.settled.map fun entry => t.consumer.message entry.1).Perm (List.range s.consumer.published.length)

theorem own_consumer (moved : OwnStep world s label t) : t.consumer = s.consumer ∨
    ∃ own, Consumer.OwnStep world.settings world.driver s.consumer own t.consumer := by
  obtain ⟨task, answer, exchange, same⟩ := moved.2
  cases next_step moved.1 with
  | consumer _ called =>
    cases task with
    | consumer task =>
      cases same
      exact .inr ⟨_, called, task, answer, rfl⟩
    | _ => cases same
  | restart _ =>
    cases task with
    | consumer task => cases task <;> cases same
    | _ => cases same
  | weather _ _ | getWeather _ _ _ => exact .inl rfl
  | @process tag lookup _ _ called =>
    exact .inr ⟨_, called, .enrich tag, ⟨lookup, answer.statement, answer.commit, answer.clock⟩, rfl⟩

theorem lookups_drain {ls : List Label} {clock : ℚ} (positive : 0 < world.client.cacheTtlSeconds)
    (workers : 0 < world.settings.consumerWorkerThreads)
    (run : Run (Steps (next world)) (initial clock) ls s) : Drains world s := by
  have reached := run_reached positive run
  have descends : Descends (OwnStep world) (Reached world) State.remainingSteps := own_descends positive
  constructor
  · intro ms t own
    exact (own.length_le descends reached).2
  · intro ms t own
    exact progress workers (own.length_le descends reached).1
  · refine exists_run_to descends (fun u known => (progress workers known).imp_right ?_) reached
    rintro ⟨task, enabled⟩
    obtain ⟨t, moved⟩ := Option.isSome_iff_exists.mp
      (enabled ⟨none, .accepted, .accepted, 0⟩ WeatherClient.answered)
    exact ⟨_, t, moved, task, _, _, rfl⟩
  · intro consuming ms t own idle
    obtain ⟨_, alone⟩ := own.project State.consumer own_consumer
    obtain ⟨published, phase⟩ := Consumer.own_run_keeps alone
    have custody := (own.length_le descends reached).1.consumer.custody
    obtain ⟨_, queued, unacked⟩ := idle.resolve_left (by rw [phase.mpr consuming]; nofun)
    exact published ▸ custody.all_settled queued unacked

/-- The worker is between the miss of the cache and the request. -/
theorem lookups_drain_missed : ∃ s,
    Run (Steps (next defaults)) (initial 0) (lookedUp.take 6) s ∧ s.lookupSteps = 3 ∧ Drains defaults s := by
  have passed : (replay (next defaults) (initial 0) (lookedUp.take 6)).any (fun s => s.lookupSteps = 3) = true := by
    decide +kernel
  obtain ⟨s, run, steps⟩ := run_of_test passed
  have positive : 0 < defaults.client.cacheTtlSeconds := by decide +kernel
  exact ⟨s, run, of_decide_eq_true steps, lookups_drain positive (by decide) run⟩

end FlightHub.Enrichment
