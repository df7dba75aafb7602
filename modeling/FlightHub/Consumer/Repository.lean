import FlightHub.Consumer.Tables
import FlightHub.Transition.Run

/-! `FlightRepository` under concurrent calls. Any number of threads call
`upsert_flight` on one repository; every acquisition of the lock, statement and
commit is a step of its own, and the connection can be lost between any two
steps. A call is named by an identifier which is used once. -/
namespace FlightHub.Repository
open Postgres Relational Transition

abbrev CallId := Nat

/-- Where a call of `upsert_flight` stands. The states from `upserting` to
`committing` are inside the `with` statement, which holds `_lock`. -/
inductive CallState where
  | idle
  | waiting (flight : EnrichedFlight)
  | upserting (flight : EnrichedFlight)
  | appending (flight : EnrichedFlight)
  | committing (flight : EnrichedFlight)
  | returned
  | raised
deriving DecidableEq

def CallState.interrupted : CallState → CallState
  | .idle => .idle
  | .returned => .returned
  | _ => .raised

structure Commit where
  call : CallId
  flight : EnrichedFlight
  started : Instant

/-- `commits` is a log kept for the specification, in commit order. -/
structure State where
  session : Session Database Instant
  lock : Option CallId
  calls : CallId → CallState
  commits : List Commit

def initial (tables : Database) : State := ⟨Session.connect tables, none, fun _ => .idle, []⟩

inductive Action where
  | call (id : CallId) (flight : EnrichedFlight)
  | acquire (id : CallId)
  | upsert (id : CallId) (reply : Reply) (clock : Instant)
  | append (id : CallId) (reply : Reply) (clock : Instant)
  | commit (id : CallId) (reply : CommitReply)
  | lose

/-- The call of a commit with a durable answer. -/
def Action.durable : Action → Option CallId
  | .commit id reply => if reply.durable then some id else none
  | _ => none

def CallState.flight : CallState → Option EnrichedFlight
  | .waiting flight | .upserting flight | .appending flight | .committing flight => some flight
  | _ => none

theorem interrupted_flight (call : CallState) : call.interrupted.flight = none := by
  cases call <;> rfl

namespace State

def set (s : State) (id : CallId) (call : CallState) : State :=
  { s with calls := Function.update s.calls id call }

def leave (s : State) (id : CallId) (call : CallState) (session : Session Database Instant) :
    State :=
  { s.set id call with session, lock := none }

def logged (s : State) (id : CallId) (flight : EnrichedFlight) (reply : CommitReply) :
    List Commit :=
  match s.session.status with
  | .inTransaction _ started => if reply.durable then s.commits ++ [⟨id, flight, started⟩] else s.commits
  | _ => s.commits

def Effective (s : State) (reply : CommitReply) : Prop :=
  reply.durable = true ∧ ∃ work started, s.session.status = .inTransaction work started

/-- The process is gone: no call goes on and the connection ends. -/
def exit (s : State) : State :=
  { s with
    session := s.session.lose
    lock := none
    calls := fun id => (s.calls id).interrupted }

/-- A new process connects to the tables which the last one left. -/
def reconnect (s : State) : State :=
  { s.exit with session := Session.connect s.session.committed }

end State

def next (driver : Driver) (s : State) : Action → Option State
  | .call id flight =>
    match s.calls id with
    | .idle => some (s.set id (.waiting flight))
    | _ => none
  | .acquire id =>
    match s.calls id, s.lock with
    | .waiting flight, none =>
      match s.session.cursor with
      | .ok () => some { s.set id (.upserting flight) with lock := some id }
      | .error _ => some (s.set id .raised)
    | _, _ => none
  | .upsert id reply clock =>
    match s.calls id with
    | .upserting flight =>
      let params := flight.modelDump
      match s.session.execute (Database.upsert params) (driver params) clock reply with
      | (.ok (), session) => some { s.set id (.appending flight) with session }
      | (.error _, session) => some (s.leave id .raised session)
    | _ => none
  | .append id reply clock =>
    match s.calls id with
    | .appending flight =>
      let params := flight.modelDump
      match s.session.execute (Database.append params) (driver params) clock reply with
      | (.ok (), session) => some { s.set id (.committing flight) with session }
      | (.error _, session) => some (s.leave id .raised session)
    | _ => none
  | .commit id reply =>
    match s.calls id with
    | .committing flight =>
      match s.session.commit reply with
      | (.ok (), session) =>
        some { s.leave id .returned session with commits := s.logged id flight reply }
      | (.error _, session) =>
        some { s.leave id .raised session with commits := s.logged id flight reply }
    | _ => none
  | .lose => some { s with session := s.session.lose }

/-- The steps of a repository, one constructor for each branch. -/
inductive Step (driver : Driver) (s : State) : Action → State → Prop where
  | call {id : CallId} {flight : EnrichedFlight} (idle : s.calls id = .idle) :
      Step driver s (.call id flight) (s.set id (.waiting flight))
  | acquire {id : CallId} {flight : EnrichedFlight} (waiting : s.calls id = .waiting flight)
      (free : s.lock = none) :
      Step driver s (.acquire id) { s.set id (.upserting flight) with lock := some id }
  | noCursor {id : CallId} {flight : EnrichedFlight} (waiting : s.calls id = .waiting flight) :
      Step driver s (.acquire id) (s.set id .raised)
  | upsert {id : CallId} {flight : EnrichedFlight} {session : Session Database Instant}
      (at_call : s.calls id = .upserting flight)
      (executed : s.session.execute (Database.upsert flight.modelDump) (driver flight.modelDump)
        clock reply = (.ok (), session)) :
      Step driver s (.upsert id reply clock) { s.set id (.appending flight) with session }
  | upsertFailed {id : CallId} {flight : EnrichedFlight} {session : Session Database Instant}
      (at_call : s.calls id = .upserting flight)
      (executed : s.session.execute (Database.upsert flight.modelDump) (driver flight.modelDump)
        clock reply = (.error error, session)) :
      Step driver s (.upsert id reply clock) (s.leave id .raised session)
  | append {id : CallId} {flight : EnrichedFlight} {session : Session Database Instant}
      (at_call : s.calls id = .appending flight)
      (executed : s.session.execute (Database.append flight.modelDump) (driver flight.modelDump)
        clock reply = (.ok (), session)) :
      Step driver s (.append id reply clock) { s.set id (.committing flight) with session }
  | appendFailed {id : CallId} {flight : EnrichedFlight} {session : Session Database Instant}
      (at_call : s.calls id = .appending flight)
      (executed : s.session.execute (Database.append flight.modelDump) (driver flight.modelDump)
        clock reply = (.error error, session)) :
      Step driver s (.append id reply clock) (s.leave id .raised session)
  | commit {id : CallId} {flight : EnrichedFlight} {session : Session Database Instant}
      (at_call : s.calls id = .committing flight)
      (ended : s.session.commit reply = (.ok (), session)) :
      Step driver s (.commit id reply)
        { s.leave id .returned session with commits := s.logged id flight reply }
  | commitFailed {id : CallId} {flight : EnrichedFlight} {session : Session Database Instant}
      (at_call : s.calls id = .committing flight)
      (ended : s.session.commit reply = (.error error, session)) :
      Step driver s (.commit id reply)
        { s.leave id .raised session with commits := s.logged id flight reply }
  | lose : Step driver s .lose { s with session := s.session.lose }

theorem next_step {driver : Driver} {s t : State} {action : Action}
    (moved : next driver s action = some t) : Step driver s action t := by
  cases action with
  | call id flight =>
    simp only [next] at moved
    split at moved <;> cases moved
    next idle => exact .call idle
  | acquire id =>
    simp only [next] at moved
    split at moved
    · next waiting free =>
      split at moved <;> cases moved
      · exact .acquire waiting free
      · exact .noCursor waiting
    · cases moved
  | upsert id reply clock =>
    simp only [next] at moved
    split at moved
    · next at_call =>
      split at moved <;> cases moved
      · next executed => exact .upsert at_call executed
      · next executed => exact .upsertFailed at_call executed
    · cases moved
  | append id reply clock =>
    simp only [next] at moved
    split at moved
    · next at_call =>
      split at moved <;> cases moved
      · next executed => exact .append at_call executed
      · next executed => exact .appendFailed at_call executed
    · cases moved
  | commit id reply =>
    simp only [next] at moved
    split at moved
    · next at_call =>
      split at moved <;> cases moved
      · next ended => exact .commit at_call ended
      · next ended => exact .commitFailed at_call ended
    · cases moved
  | lose =>
    cases moved
    exact .lose

/-- Apply the committed calls one after the other, each as one upsert and one
appended row. -/
def serial (tables : Database) (commits : List Commit) : Database :=
  commits.foldl (fun tables commit => tables.record commit.flight.modelDump commit.started) tables

theorem serial_concat (tables : Database) (commits : List Commit) (commit : Commit) :
    serial tables (commits ++ [commit]) =
      (serial tables commits).record commit.flight.modelDump commit.started := by
  simp [serial]

theorem history_serial (tables : Database) (commits : List Commit) :
    (serial tables commits).history =
      tables.history ++ commits.map (fun commit => commit.flight.modelDump) := by
  induction commits using List.reverseRecOn with
  | nil => simp [serial]
  | append_singleton commits commit ih =>
    rw [serial_concat, Database.history_record, ih, List.map_append, List.append_assoc]
    rfl

def CallState.Holding : CallState → Prop
  | .upserting _ | .appending _ | .committing _ => True
  | _ => False

/-- What the open transaction holds while a call is inside the `with` statement.
A lost connection holds nothing. -/
def Stage (driver : Driver) (session : Session Database Instant) : CallState → Prop
  | .upserting _ => session.Settled
  | .appending flight => driver flight.modelDump = true ∧ (session.status = .closed ∨
      ∃ started, session.status =
        .inTransaction (session.committed.upsert flight.modelDump started) started)
  | .committing flight => session.status = .closed ∨
      ∃ started, session.status =
        .inTransaction (session.committed.record flight.modelDump started) started
  | _ => False

structure Inv (driver : Driver) (tables : Database) (s : State) : Prop where
  holder : ∀ id, s.lock = some id ↔ (s.calls id).Holding
  stage : s.lock.elim s.session.Settled fun id => Stage driver s.session (s.calls id)
  committed : s.session.committed = serial tables s.commits
  once : (s.commits.map Commit.call).Nodup
  finished : ∀ commit ∈ s.commits, s.calls commit.call = .returned ∨ s.calls commit.call = .raised
  returned : ∀ id, s.calls id = .returned → id ∈ s.commits.map Commit.call

variable {driver : Driver} {tables : Database} {s t : State}

theorem logged_effective (id : CallId) (flight : EnrichedFlight) {reply : CommitReply}
    (effective : s.Effective reply) :
    ∃ started, s.logged id flight reply = s.commits ++ [⟨id, flight, started⟩] := by
  obtain ⟨durable, work, started, opened⟩ := effective
  exact ⟨started, by simp [State.logged, opened, durable]⟩

theorem logged_ineffective (id : CallId) (flight : EnrichedFlight) {reply : CommitReply}
    (ineffective : ¬ s.Effective reply) : s.logged id flight reply = s.commits := by
  cases status : s.session.status with
  | inTransaction work started =>
    have transient : ¬ reply.durable = true := fun durable =>
      ineffective ⟨durable, work, started, status⟩
    simp [State.logged, status, transient]
  | _ => simp [State.logged, status]

theorem initial_inv (driver : Driver) (tables : Database) : Inv driver tables (initial tables) where
  holder id := by simp [initial, CallState.Holding]
  stage := Session.connect_settled tables
  committed := rfl
  once := List.nodup_nil
  finished := by simp [initial]
  returned id same := by cases same

theorem CallState.Holding.running {call : CallState} (holding : call.Holding) :
    call ≠ .returned ∧ call ≠ .raised := by
  constructor <;> rintro rfl <;> exact holding

namespace Inv

theorem settled (inv : Inv driver tables s) (free : s.lock = none) : s.session.Settled := by
  simpa only [free, Option.elim_none] using inv.stage

theorem stage_of (inv : Inv driver tables s) {id : CallId} {call : CallState}
    (at_call : s.calls id = call) (holding : call.Holding) :
    s.lock = some id ∧ Stage driver s.session call := by
  have locked := (inv.holder id).mpr (at_call ▸ holding)
  refine ⟨locked, ?_⟩
  simpa only [locked, Option.elim_some, at_call] using inv.stage

/-- No commit belongs to a call which is still running. -/
theorem uncommitted (inv : Inv driver tables s) {id : CallId}
    (running : s.calls id ≠ .returned ∧ s.calls id ≠ .raised) : ∀ commit ∈ s.commits, commit.call ≠ id := by
  rintro commit member rfl
  exact (inv.finished commit member).elim running.1 running.2

theorem finished_set (inv : Inv driver tables s) {id : CallId} {call : CallState}
    (running : s.calls id ≠ .returned ∧ s.calls id ≠ .raised) : ∀ commit ∈ s.commits,
      (s.set id call).calls commit.call = .returned ∨ (s.set id call).calls commit.call = .raised := by
  intro commit member
  simpa only [State.set, Function.update_of_ne (inv.uncommitted running commit member)] using
    inv.finished commit member

theorem returned_set (inv : Inv driver tables s) {id : CallId} {call : CallState}
    (unfinished : call ≠ .returned) : ∀ other, (s.set id call).calls other = .returned →
      other ∈ s.commits.map Commit.call := by
  intro other same
  by_cases own : other = id
  · subst own
    simp only [State.set, Function.update_self] at same
    exact absurd same unfinished
  · exact inv.returned other (by simpa only [State.set, Function.update_of_ne own] using same)

/-- A call which neither holds the lock nor has finished can move among such
states without touching anything shared. -/
theorem set_outside (inv : Inv driver tables s) {id : CallId} {call : CallState}
    (outside : ¬ (s.calls id).Holding) (running : s.calls id ≠ .returned ∧ s.calls id ≠ .raised)
    (after : ¬ call.Holding) (unfinished : call ≠ .returned) : Inv driver tables (s.set id call) where
  holder other := by
    by_cases same : other = id
    · subst same
      simp only [State.set, Function.update_self]
      exact ⟨fun locked => absurd ((inv.holder _).mp locked) outside, fun holding => absurd holding after⟩
    · simpa only [State.set, Function.update_of_ne same] using inv.holder other
  stage := by
    have stage := inv.stage
    cases locked : s.lock with
    | none => simpa only [State.set, locked, Option.elim_none] using stage
    | some holder =>
      have differs : holder ≠ id := fun same => outside (same ▸ (inv.holder holder).mp locked)
      simpa only [State.set, locked, Option.elim_some, Function.update_of_ne differs] using stage
  committed := inv.committed
  once := inv.once
  finished := inv.finished_set running
  returned := inv.returned_set unfinished

theorem advance (inv : Inv driver tables s) {id : CallId} (holding : (s.calls id).Holding)
    {call : CallState} (after : call.Holding) {session : Session Database Instant}
    (kept : session.committed = s.session.committed) (stage : Stage driver session call) :
    Inv driver tables { s.set id call with session } where
  holder other := by
    by_cases own : other = id
    · subst own
      have locked := (inv.holder other).mpr holding
      simpa only [State.set, Function.update_self, locked, true_iff] using after
    · simpa only [State.set, Function.update_of_ne own] using inv.holder other
  stage := by
    have locked := (inv.holder id).mpr holding
    simpa only [State.set, locked, Option.elim_some, Function.update_self] using stage
  committed := kept.trans inv.committed
  once := inv.once
  finished := inv.finished_set holding.running
  returned := inv.returned_set after.running.1

theorem leave (inv : Inv driver tables s) {id : CallId} (holding : (s.calls id).Holding)
    {call : CallState} (ended : call = .returned ∨ call = .raised)
    {session : Session Database Instant} (settled : session.Settled) {commits : List Commit}
    (committed : session.committed = serial tables commits)
    (grown : (commits = s.commits ∧ call = .raised) ∨
      ∃ flight started, commits = s.commits ++ [⟨id, flight, started⟩]) :
    Inv driver tables { s.leave id call session with commits } where
  holder other := by
    have outside : ¬ (Function.update s.calls id call other).Holding := by
      by_cases own : other = id
      · subst own
        rw [Function.update_self]
        rcases ended with rfl | rfl <;> exact id
      · rw [Function.update_of_ne own]
        intro same
        have locked := ((inv.holder id).mpr holding).symm.trans ((inv.holder other).mpr same)
        exact own (Option.some.inj locked).symm
    simpa only [State.leave, State.set, reduceCtorEq, false_iff] using outside
  stage := settled
  committed := committed
  once := by
    rcases grown with ⟨rfl, _⟩ | ⟨flight, started, rfl⟩
    · exact inv.once
    · have fresh : id ∉ s.commits.map Commit.call := by
        intro member
        obtain ⟨commit, logged, same⟩ := List.mem_map.mp member
        exact inv.uncommitted holding.running commit logged same
      have once := inv.once.concat fresh
      rw [List.concat_eq_append] at once
      rw [List.map_append]
      exact once
  finished commit member := by
    by_cases own : commit.call = id
    · simpa only [State.leave, State.set, own, Function.update_self] using ended
    · simp only [State.leave, State.set, Function.update_of_ne own]
      rcases grown with ⟨rfl, _⟩ | ⟨flight, started, rfl⟩
      · exact inv.finished commit member
      · rcases List.mem_append.mp member with member | member
        · exact inv.finished commit member
        · exact absurd (List.mem_singleton.mp member ▸ rfl) own
  returned other same := by
    simp only [State.leave, State.set] at same
    by_cases own : other = id
    · subst own
      rw [Function.update_self] at same
      rcases grown with ⟨_, raised⟩ | ⟨flight, started, rfl⟩
      · exact absurd (same.symm.trans raised) nofun
      · simp
    · rw [Function.update_of_ne own] at same
      have logged := inv.returned other same
      rcases grown with ⟨rfl, _⟩ | ⟨flight, started, rfl⟩
      · exact logged
      · exact List.mem_map.mpr (by
          obtain ⟨commit, member, same⟩ := List.mem_map.mp logged
          exact ⟨commit, List.mem_append_left _ member, same⟩)

theorem acquire (inv : Inv driver tables s) {id : CallId} {flight : EnrichedFlight}
    (waiting : s.calls id = .waiting flight) (free : s.lock = none) :
    Inv driver tables { s.set id (.upserting flight) with lock := some id } where
  holder other := by
    by_cases own : other = id
    · subst own
      simp [State.set, CallState.Holding]
    · have apart := inv.holder other
      simp only [free, reduceCtorEq, false_iff] at apart
      simp only [State.set, Function.update_of_ne own, Option.some.injEq]
      exact ⟨fun same => absurd same.symm own, fun holding => absurd holding apart⟩
  stage := by
    simpa only [State.set, Option.elim_some, Function.update_self, Stage] using inv.settled free
  committed := inv.committed
  once := inv.once
  finished := inv.finished_set (by simp [waiting])
  returned := inv.returned_set nofun

/-- A refused history row cannot leave the upsert of its own pair behind: the
driver accepted the parameters once and would accept them again. -/
theorem appendFailed (inv : Inv driver tables s) {id : CallId} {flight : EnrichedFlight}
    {session : Session Database Instant} (at_call : s.calls id = .appending flight)
    (executed : s.session.execute (Database.append flight.modelDump) (driver flight.modelDump)
      clock reply = (.error error, session)) : Inv driver tables (s.leave id .raised session) := by
  have holding : (s.calls id).Holding := by simp [at_call, CallState.Holding]
  obtain ⟨adapts, _⟩ := (inv.stage_of at_call trivial).2
  obtain ⟨same, left⟩ := Session.execute_error executed
  refine inv.leave holding (.inr rfl) ?_ (same.trans inv.committed) (.inl ⟨rfl, rfl⟩)
  intro work started opened
  exact absurd (adapts.symm.trans (left work started opened).1) nofun

theorem append (inv : Inv driver tables s) {id : CallId} {flight : EnrichedFlight}
    {session : Session Database Instant} (at_call : s.calls id = .appending flight)
    (executed : s.session.execute (Database.append flight.modelDump) (driver flight.modelDump)
      clock reply = (.ok (), session)) :
    Inv driver tables { s.set id (.committing flight) with session } := by
  have holding : (s.calls id).Holding := by simp [at_call, CallState.Holding]
  have after : (CallState.committing flight).Holding := trivial
  obtain ⟨_, status⟩ := (inv.stage_of at_call trivial).2
  obtain ⟨work, started, found, _, _, rfl⟩ := Session.execute_ok_iff.mp executed
  refine inv.advance holding after rfl (.inr ⟨started, ?_⟩)
  rcases status with closed | ⟨began, opened⟩
  · simp [Session.transaction, closed] at found
  · simp only [Session.transaction, opened, Option.some.injEq, Prod.mk.injEq] at found
    obtain ⟨rfl, rfl⟩ := found
    rfl

/-- The log follows the committed tables through every answer to a commit. -/
theorem committed_commit (inv : Inv driver tables s) {id : CallId} {flight : EnrichedFlight}
    (at_call : s.calls id = .committing flight) (reply : CommitReply) :
    (s.session.commit reply).2.committed = serial tables (s.logged id flight reply) := by
  rw [(Session.commit_outcome reply s.session).2]
  rcases (inv.stage_of at_call trivial).2 with closed | ⟨started, opened⟩
  · simpa only [State.logged, closed] using inv.committed
  · simp only [State.logged, opened]
    cases reply.durable
    · exact inv.committed
    · simp only [if_true, serial_concat, inv.committed]

theorem commit (inv : Inv driver tables s) {id : CallId} {flight : EnrichedFlight}
    {session : Session Database Instant} (at_call : s.calls id = .committing flight)
    (ended : s.session.commit reply = (.ok (), session)) :
    Inv driver tables
      { s.leave id .returned session with commits := s.logged id flight reply } := by
  have holding : (s.calls id).Holding := by simp [at_call, CallState.Holding]
  have settled := Session.commit_settled reply s.session
  have committed := inv.committed_commit at_call reply
  rw [ended] at settled committed
  refine inv.leave holding (.inl rfl) settled committed (.inr ?_)
  rcases (inv.stage_of at_call trivial).2 with closed | ⟨started, opened⟩
  · simp [Session.commit, closed] at ended
  · obtain ⟨rfl, _⟩ := Session.commit_ok opened ended
    exact ⟨flight, started, by simp [State.logged, opened, CommitReply.durable]⟩

theorem commitFailed (inv : Inv driver tables s) {id : CallId} {flight : EnrichedFlight}
    {session : Session Database Instant} (at_call : s.calls id = .committing flight)
    (ended : s.session.commit reply = (.error error, session)) :
    Inv driver tables
      { s.leave id .raised session with commits := s.logged id flight reply } := by
  have holding : (s.calls id).Holding := by simp [at_call, CallState.Holding]
  have settled := Session.commit_settled reply s.session
  have committed := inv.committed_commit at_call reply
  rw [ended] at settled committed
  refine inv.leave holding (.inr rfl) settled committed ?_
  by_cases effective : s.Effective reply
  · obtain ⟨started, logged⟩ := logged_effective id flight effective
    exact .inr ⟨flight, started, logged⟩
  · exact .inl ⟨logged_ineffective id flight effective, rfl⟩

theorem lose (inv : Inv driver tables s) :
    Inv driver tables { s with session := s.session.lose } := by
  refine ⟨inv.holder, ?_, inv.committed, inv.once, inv.finished, inv.returned⟩
  have stage := inv.stage
  cases locked : s.lock with
  | none => exact Session.lose_settled s.session
  | some id =>
    simp only [locked, Option.elim_some] at stage ⊢
    cases at_call : s.calls id with
    | upserting flight => exact Session.lose_settled s.session
    | appending flight =>
      rw [at_call] at stage
      exact ⟨stage.1, .inl rfl⟩
    | committing flight => exact .inl rfl
    | _ =>
      rw [at_call] at stage
      exact stage.elim

theorem step (inv : Inv driver tables s) {action : Action} (step : Step driver s action t) :
    Inv driver tables t := by
  cases step with
  | call idle =>
    exact inv.set_outside (by simp [idle, CallState.Holding]) (by simp [idle]) nofun nofun
  | acquire waiting free => exact inv.acquire waiting free
  | noCursor waiting =>
    exact inv.set_outside (by simp [waiting, CallState.Holding]) (by simp [waiting]) nofun nofun
  | @upsert _ _ id flight session at_call executed =>
    have holding : (s.calls id).Holding := by simp [at_call, CallState.Holding]
    have after : (CallState.appending flight).Holding := trivial
    have settled : s.session.Settled := (inv.stage_of at_call trivial).2
    obtain ⟨work, started, found, adapts, _, rfl⟩ := Session.execute_ok_iff.mp executed
    obtain rfl := settled.transaction found
    exact inv.advance holding after rfl ⟨adapts, .inr ⟨started, rfl⟩⟩
  | @upsertFailed _ _ error id flight session at_call executed =>
    have holding : (s.calls id).Holding := by simp [at_call, CallState.Holding]
    have settled : s.session.Settled := (inv.stage_of at_call trivial).2
    exact inv.leave holding (.inr rfl) (settled.execute_error executed)
      ((Session.execute_error executed).1.trans inv.committed) (.inl ⟨rfl, rfl⟩)
  | append at_call executed => exact inv.append at_call executed
  | appendFailed at_call executed => exact inv.appendFailed at_call executed
  | commit at_call ended => exact inv.commit at_call ended
  | commitFailed at_call ended => exact inv.commitFailed at_call ended
  | lose => exact inv.lose

theorem exit (inv : Inv driver tables s) : Inv driver tables s.exit where
  holder id := by
    cases at_call : s.calls id <;>
      simp [State.exit, CallState.interrupted, CallState.Holding, at_call]
  stage := Session.lose_settled s.session
  committed := inv.committed
  once := inv.once
  finished commit member := by
    rcases inv.finished commit member with same | same <;>
      simp [State.exit, CallState.interrupted, same]
  returned id same := by
    apply inv.returned id
    cases at_call : s.calls id <;>
      simp_all [State.exit, CallState.interrupted]

theorem reconnect (inv : Inv driver tables s) : Inv driver tables s.reconnect :=
  { inv.exit with stage := Session.connect_settled s.session.committed }

end Inv

theorem run_inv {ls : List Action} (run : Run (Steps (next driver)) (initial tables) ls s) :
    Inv driver tables s :=
  run.invariant (fun inv moved => inv.step (next_step moved)) (initial_inv driver tables)

theorem set_flight {id other : CallId} {call : CallState} {flight : EnrichedFlight}
    (kept : call.flight = none ∨ call.flight = (s.calls id).flight)
    (carried : (Function.update s.calls id call other).flight = some flight) :
    (s.calls other).flight = some flight := by
  by_cases own : other = id
  · subst own
    rw [Function.update_self] at carried
    rcases kept with none | same
    · exact absurd (none.symm.trans carried) nofun
    · exact same.symm.trans carried
  · rwa [Function.update_of_ne own] at carried

namespace Step
variable {action : Action}

theorem flight (step : Step driver s action t) {id : CallId} {flight : EnrichedFlight}
    (known : (t.calls id).flight = some flight) :
    (s.calls id).flight = some flight ∨ action = .call id flight := by
  cases step with
  | @call own made idle =>
    by_cases same : id = own
    · subst same
      simp only [State.set, Function.update_self, CallState.flight, Option.some.injEq] at known
      exact .inr (known ▸ rfl)
    · simp only [State.set, Function.update_of_ne same] at known
      exact .inl known
  | acquire waiting free => exact .inl (set_flight (.inr (by rw [waiting]; rfl)) known)
  | upsert at_call executed => exact .inl (set_flight (.inr (by rw [at_call]; rfl)) known)
  | append at_call executed => exact .inl (set_flight (.inr (by rw [at_call]; rfl)) known)
  | lose => exact .inl known
  | _ => exact .inl (set_flight (.inl rfl) known)

/-- The log grows by the call whose commit takes effect, and in no other way. -/
theorem commits (step : Step driver s action t) :
    t.commits = s.commits ∨ ∃ id reply flight started, action = .commit id reply ∧
      s.Effective reply ∧ (s.calls id).flight = some flight ∧
        t.commits = s.commits ++ [⟨id, flight, started⟩] := by
  have grown {id : CallId} {flight : EnrichedFlight} (at_call : s.calls id = .committing flight)
      (reply : CommitReply) : s.logged id flight reply = s.commits ∨ ∃ own answer carried started,
        Action.commit id reply = .commit own answer ∧ s.Effective answer ∧
          (s.calls own).flight = some carried ∧
            s.logged id flight reply = s.commits ++ [⟨own, carried, started⟩] := by
    by_cases effective : s.Effective reply
    · obtain ⟨started, logged⟩ := logged_effective id flight effective
      exact .inr ⟨id, reply, flight, started, rfl, effective, by rw [at_call]; rfl, logged⟩
    · exact .inl (logged_ineffective id flight effective)
  cases step with
  | commit at_call ended => exact grown at_call _
  | commitFailed at_call ended => exact grown at_call _
  | _ => exact .inl rfl

theorem commits_effective {id : CallId} {reply : CommitReply}
    (step : Step driver s (.commit id reply) t) (effective : s.Effective reply) :
    ∃ flight started, (s.calls id).flight = some flight ∧
      t.commits = s.commits ++ [⟨id, flight, started⟩] := by
  cases step with
  | commit at_call ended =>
    obtain ⟨started, logged⟩ := logged_effective id _ effective
    exact ⟨_, started, by rw [at_call]; rfl, logged⟩
  | commitFailed at_call ended =>
    obtain ⟨started, logged⟩ := logged_effective id _ effective
    exact ⟨_, started, by rw [at_call]; rfl, logged⟩

/-- An acknowledged commit which takes effect ends its call. -/
theorem commit_accepted {id : CallId} (step : Step driver s (.commit id .accepted) t)
    (effective : s.Effective .accepted) : t.calls id = .returned := by
  obtain ⟨_, work, started, opened⟩ := effective
  cases step with
  | commit at_call ended => exact Function.update_self id _ _
  | commitFailed at_call ended => simp [Session.commit, opened] at ended

theorem calls (step : Step driver s action t) {id : CallId}
    (outside : (s.calls id).flight = none) :
    t.calls id = s.calls id ∨ ∃ flight, action = .call id flight ∧ s.calls id = .idle := by
  have kept {other : CallId} {flight : EnrichedFlight} (call : CallState)
      (inside : (s.calls other).flight = some flight) :
      Function.update s.calls other call id = s.calls id := by
    refine Function.update_of_ne ?_ _ _
    rintro rfl
    exact absurd (outside.symm.trans inside) nofun
  cases step with
  | @call other flight idle =>
    by_cases own : id = other
    · subst own
      exact .inr ⟨flight, rfl, idle⟩
    · exact .inl (Function.update_of_ne own _ _)
  | acquire waiting _ => exact .inl (kept _ (by rw [waiting]; rfl))
  | noCursor waiting => exact .inl (kept _ (by rw [waiting]; rfl))
  | upsert at_call _ => exact .inl (kept _ (by rw [at_call]; rfl))
  | upsertFailed at_call _ => exact .inl (kept _ (by rw [at_call]; rfl))
  | append at_call _ => exact .inl (kept _ (by rw [at_call]; rfl))
  | appendFailed at_call _ => exact .inl (kept _ (by rw [at_call]; rfl))
  | commit at_call _ => exact .inl (kept _ (by rw [at_call]; rfl))
  | commitFailed at_call _ => exact .inl (kept _ (by rw [at_call]; rfl))
  | lose => exact .inl rfl

end Step

/-- Without interference the steps of one call are the body of `upsert_flight`. -/
theorem uninterrupted_transact {id : CallId} {flight : EnrichedFlight}
    (waiting : s.calls id = .waiting flight) (free : s.lock = none) (answers : Answers) :
    ∃ ls t, Run (Steps (next driver)) s ls t ∧ t.lock = none ∧
      t.session = (FlightRepository.transact driver flight answers s.session).2 ∧
      (t.calls id = .returned ↔
        (FlightRepository.transact driver flight answers s.session).1 = .ok ()) := by
  cases cursor : s.session.cursor with
  | error error =>
    have acquired : next driver s (.acquire id) = some (s.set id .raised) := by
      simp only [next, waiting, free, cursor]
    exact ⟨_, _, .single acquired, free, by simp [FlightRepository.transact, cursor, State.set]⟩
  | ok _ =>
    let entered : State := { s.set id (.upserting flight) with lock := some id }
    have acquired : next driver s (.acquire id) = some entered := by
      simp only [next, waiting, free, cursor, entered]
    have entered_at : entered.calls id = .upserting flight := by simp [entered, State.set]
    cases upserted : s.session.execute (Database.upsert flight.modelDump)
      (driver flight.modelDump) answers.clock answers.upsert with | mk outcome session =>
    cases outcome with
    | error error =>
      have failed : next driver entered (.upsert id answers.upsert answers.clock) =
          some (entered.leave id .raised session) := by
        simp only [next, entered_at, show entered.session = s.session from rfl, upserted]
      refine ⟨_, _, (Run.single acquired).trans (.single failed), rfl, ?_⟩
      simp [FlightRepository.transact, cursor, upserted, State.leave, State.set]
    | ok _ =>
      let written : State := { entered.set id (.appending flight) with session }
      have moved : next driver entered (.upsert id answers.upsert answers.clock) = some written := by
        simp only [next, entered_at, show entered.session = s.session from rfl, upserted, written]
      have written_at : written.calls id = .appending flight := by simp [written, State.set]
      have before : Run (Steps (next driver)) s
          [.acquire id, .upsert id answers.upsert answers.clock] written :=
        (Run.single acquired).trans (.single moved)
      cases appended : session.execute (Database.append flight.modelDump)
        (driver flight.modelDump) answers.clock answers.history with | mk outcome after =>
      cases outcome with
      | error error =>
        have failed : next driver written (.append id answers.history answers.clock) =
            some (written.leave id .raised after) := by
          simp only [next, written_at, show written.session = session from rfl, appended]
        refine ⟨_, _, before.trans (.single failed), rfl, ?_⟩
        simp [FlightRepository.transact, cursor, upserted, appended, State.leave, State.set]
      | ok _ =>
        let complete : State := { written.set id (.committing flight) with session := after }
        have moved : next driver written (.append id answers.history answers.clock) =
            some complete := by
          simp only [next, written_at, show written.session = session from rfl, appended, complete]
        have complete_at : complete.calls id = .committing flight := by simp [complete, State.set]
        have before : Run (Steps (next driver)) s [.acquire id,
            .upsert id answers.upsert answers.clock, .append id answers.history answers.clock]
            complete := before.trans (.single moved)
        cases ended : after.commit answers.commit with | mk outcome final =>
        cases outcome with
        | error error =>
          have failed : next driver complete (.commit id answers.commit) =
              some { complete.leave id .raised final with
                commits := complete.logged id flight answers.commit } := by
            simp only [next, complete_at, show complete.session = after from rfl, ended]
          refine ⟨_, _, before.trans (.single failed), rfl, ?_⟩
          simp [FlightRepository.transact, cursor, upserted, appended, ended, State.leave, State.set]
        | ok _ =>
          have moved : next driver complete (.commit id answers.commit) =
              some { complete.leave id .returned final with
                commits := complete.logged id flight answers.commit } := by
            simp only [next, complete_at, show complete.session = after from rfl, ended]
          refine ⟨_, _, before.trans (.single moved), rfl, ?_⟩
          simp [FlightRepository.transact, cursor, upserted, appended, ended, State.leave, State.set]

end FlightHub.Repository
