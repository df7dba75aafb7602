/-! One client connection to a transactional server with autocommit off, for an
arbitrary database type `D` and clock `T`. The statements given to a session are
functions on the database; what the server answers, and where the connection is
lost, is an input of each operation. Only the committed database is visible to
other sessions and survives the connection. -/
namespace Postgres
variable {D T : Type}

/-- The transaction status of a connection. A transaction carries its working
copy of the database and the time at which it started, the value of `now()`. -/
inductive Status (D T : Type) where
  | idle
  | inTransaction (work : D) (started : T)
  | inFailedTransaction
  | closed

structure Session (D T : Type) where
  committed : D
  status : Status D T

inductive Reply where
  | accepted
  | refused
  | lost
deriving DecidableEq

/-- The answer to a `commit`. The connection can also be lost after the commit
took effect and before the client has read the answer. -/
inductive CommitReply where
  | accepted
  | refused
  | lost
  | unacknowledged
deriving DecidableEq

/-- The answers after which the transaction is durable, acknowledged or not. -/
def CommitReply.durable : CommitReply → Bool
  | .accepted | .unacknowledged => true
  | .refused | .lost => false

inductive Error where
  | dataError
  | refusedStatement
  | inFailedSqlTransaction
  | operationalError
deriving DecidableEq

namespace Session

def connect (committed : D) : Session D T := ⟨committed, .idle⟩

/-- `cursor()` raises on a closed connection and sends nothing. -/
def cursor (session : Session D T) : Except Error Unit :=
  match session.status with
  | .closed => .error .operationalError
  | _ => .ok ()

def send (stmt : T → D → D) (adapts : Bool) (reply : Reply) (session : Session D T)
    (work : D) (started : T) : Except Error Unit × Session D T :=
  match reply with
  | .lost => (.error .operationalError, { session with status := .closed })
  | .accepted | .refused =>
    if adapts = false then
      (.error .dataError, { session with status := .inTransaction work started })
    else if reply = .refused then
      (.error .refusedStatement, { session with status := .inFailedTransaction })
    else (.ok (), { session with status := .inTransaction (stmt started work) started })

/-- `cursor.execute`. The first statement of a transaction starts it; after a
refused statement every further one fails until the transaction is ended. -/
def execute (stmt : T → D → D) (adapts : Bool) (clock : T) (reply : Reply) (session : Session D T) :
    Except Error Unit × Session D T :=
  match session.status with
  | .closed => (.error .operationalError, session)
  | .inFailedTransaction => (.error .inFailedSqlTransaction, session)
  | .idle => session.send stmt adapts reply session.committed clock
  | .inTransaction work started => session.send stmt adapts reply work started

/-- `connection.commit`. Committing a failed transaction rolls it back. -/
def commit (reply : CommitReply) (session : Session D T) : Except Error Unit × Session D T :=
  match session.status with
  | .closed => (.error .operationalError, session)
  | .idle => (.ok (), session)
  | .inFailedTransaction => (.ok (), { session with status := .idle })
  | .inTransaction work _ =>
    match reply with
    | .accepted => (.ok (), ⟨work, .idle⟩)
    | .refused => (.error .refusedStatement, { session with status := .idle })
    | .lost => (.error .operationalError, { session with status := .closed })
    | .unacknowledged => (.error .operationalError, ⟨work, .closed⟩)

/-- The server or the network ends the connection: uncommitted work is discarded. -/
def lose (session : Session D T) : Session D T := { session with status := .closed }

/-- The working copy and the start time with which a statement would run. -/
def transaction (clock : T) (session : Session D T) : Option (D × T) :=
  match session.status with
  | .idle => some (session.committed, clock)
  | .inTransaction work started => some (work, started)
  | .inFailedTransaction | .closed => none

theorem execute_ok_iff {stmt : T → D → D} {adapts : Bool} {clock : T} {reply : Reply}
    {session after : Session D T} :
    session.execute stmt adapts clock reply = (.ok (), after) ↔
      ∃ work started, session.transaction clock = some (work, started) ∧ adapts = true ∧
        reply = .accepted ∧
        after = { session with status := .inTransaction (stmt started work) started } := by
  unfold execute transaction
  cases session.status <;> cases reply <;> cases adapts <;> simp [send, and_assoc, @eq_comm _ after]

/-- A failed statement changes nothing that is committed, and a transaction it
leaves usable is the one it found: the driver refused the parameters. -/
theorem execute_error {stmt : T → D → D} {adapts : Bool} {clock : T} {reply : Reply}
    {session after : Session D T} {error : Error}
    (failed : session.execute stmt adapts clock reply = (.error error, after)) :
    after.committed = session.committed ∧
      ∀ work started, after.status = .inTransaction work started →
        adapts = false ∧ session.transaction clock = some (work, started) := by
  unfold execute at failed
  unfold transaction
  cases status : session.status <;> cases reply <;> cases adapts <;>
    simp only [status, send, reduceCtorEq, if_true, if_false, Prod.mk.injEq] at failed <;>
    (try exact False.elim failed.1) <;> obtain ⟨_, rfl⟩ := failed <;> simp [status]

theorem commit_ok {reply : CommitReply} {session after : Session D T} {work : D} {started : T}
    (opened : session.status = .inTransaction work started)
    (ended : session.commit reply = (.ok (), after)) :
    reply = .accepted ∧ after = ⟨work, .idle⟩ := by
  unfold commit at ended
  cases reply <;> simp_all

/-- A commit never leaves a transaction open, and makes the working copy the
committed database exactly when its answer says so. -/
theorem commit_outcome (reply : CommitReply) (session : Session D T) :
    (∀ work started, (session.commit reply).2.status ≠ .inTransaction work started) ∧
      (session.commit reply).2.committed =
        match session.status with
        | .inTransaction work _ => if reply.durable then work else session.committed
        | _ => session.committed := by
  unfold commit
  cases status : session.status <;> cases reply <;> simp [status, CommitReply.durable]

/-- No open transaction holds a change which is not committed. -/
def Settled (session : Session D T) : Prop :=
  ∀ work started, session.status = .inTransaction work started → work = session.committed

theorem connect_settled (committed : D) : (connect committed : Session D T).Settled := by
  intro work started same
  cases same

theorem lose_settled (session : Session D T) : session.lose.Settled := by
  intro work started same
  cases same

theorem commit_settled (reply : CommitReply) (session : Session D T) :
    (session.commit reply).2.Settled :=
  fun work started same => absurd same ((commit_outcome reply session).1 work started)

theorem Settled.transaction {session : Session D T} (settled : session.Settled) {clock : T}
    (found : session.transaction clock = some (work, started)) : work = session.committed := by
  unfold Session.transaction at found
  cases status : session.status <;> simp only [status, Option.some.injEq, Prod.mk.injEq,
    reduceCtorEq] at found
  · exact found.1.symm
  · exact found.1 ▸ settled _ _ status

/-- A statement which fails on a settled session leaves it settled. -/
theorem Settled.execute_error {session after : Session D T} (settled : session.Settled)
    {stmt : T → D → D} {adapts : Bool} {clock : T} {reply : Reply} {error : Error}
    (failed : session.execute stmt adapts clock reply = (.error error, after)) : after.Settled := by
  obtain ⟨same, left⟩ := Session.execute_error failed
  intro work started opened
  exact (settled.transaction (left work started opened).2).trans same.symm

end Session
end Postgres
