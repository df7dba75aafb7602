import FlightHub.Consumer.Tables

/-! Failure isolation of a sequence of `upsert_flight` calls on one connection.
`upsert_flight` neither rolls back nor reconnects, so a refused statement or a
lost connection decides every later call; a refusal by the driver does not. -/
namespace FlightHub
open Postgres

/-- One call with the answers it would get on a healthy connection. -/
structure Call where
  flight : EnrichedFlight
  answers : Answers

namespace Call
variable (driver : Driver) (call : Call)

/-- Neither the driver nor the server refuses a statement of this call, and the
connection survives it. -/
def Clean : Prop :=
  driver call.flight.modelDump = true ∧ call.answers.upsert = .accepted ∧
    call.answers.history = .accepted ∧ call.answers.commit = .accepted

/-- The server refuses one of the two statements, or the connection is lost
during the call. -/
def Poisons : Prop :=
  call.answers.upsert = .lost ∨ driver call.flight.modelDump = true ∧
    (call.answers.upsert = .refused ∨ call.answers.history ≠ .accepted ∨
      call.answers.commit = .lost ∨ call.answers.commit = .unacknowledged)

instance : Decidable (call.Clean driver) := inferInstanceAs (Decidable (_ ∧ _))
instance : Decidable (call.Poisons driver) := inferInstanceAs (Decidable (_ ∨ _))

end Call

namespace FlightRepository
variable {driver : Driver}

def committed (repository : FlightRepository) : Option Database :=
  repository.conn.map Session.committed

/-- Every call which is not itself at fault returns and commits its pair of rows. -/
def Isolated (driver : Driver) : FlightRepository → List Call → Prop
  | _, [] => True
  | repository, call :: rest =>
    let outcome := repository.upsertFlight driver call.flight call.answers
    (call.Clean driver → outcome.1 = .ok () ∧ ∃ now,
      outcome.2.committed = repository.committed.map (·.record call.flight.modelDump now)) ∧
    Isolated driver outcome.2 rest

/-- The next statement runs on the committed tables. An open transaction without
changes is left behind when the driver refuses the parameters. -/
def Usable (session : Session Database Instant) : Prop :=
  session.status = .idle ∨
    ∃ started, session.status = .inTransaction session.committed started

def Dead (session : Session Database Instant) : Prop :=
  session.status = .closed ∨ session.status = .inFailedTransaction

/-- On a usable session the body runs from the committed tables, whatever left
the transaction open. -/
theorem transact_usable {session : Session Database Instant} (usable : Usable session)
    (flight : EnrichedFlight) (answers : Answers) :
    ∃ started, transact driver flight answers session =
      transact driver flight answers
        { session with status := .inTransaction session.committed started } := by
  rcases usable with status | ⟨started, status⟩
  · exact ⟨answers.clock, by simp [transact, Session.cursor, Session.execute, Session.send, status]⟩
  · exact ⟨started, by rw [← status]⟩

theorem transact_clean {session : Session Database Instant} (usable : Usable session)
    {call : Call} (clean : call.Clean driver) :
    ∃ now, transact driver call.flight call.answers session =
      (.ok (), ⟨session.committed.record call.flight.modelDump now, .idle⟩) := by
  obtain ⟨adapts, upsert, history, commit⟩ := clean
  obtain ⟨started, same⟩ := transact_usable usable call.flight call.answers
  refine ⟨started, same.trans ?_⟩
  simp [transact, Session.cursor, Session.execute, Session.send, Session.commit, adapts, upsert,
    history, commit, Database.record]

theorem transact_poisoned {session : Session Database Instant} (usable : Usable session)
    {call : Call} (poisons : call.Poisons driver) :
    Dead (transact driver call.flight call.answers session).2 := by
  obtain ⟨started, same⟩ := transact_usable usable call.flight call.answers
  rw [same]
  unfold Call.Poisons at poisons
  rcases poisons with lost | ⟨adapts, cause⟩
  · simp [transact, Session.cursor, Session.execute, Session.send, Dead, lost]
  · cases upsert : call.answers.upsert <;> cases history : call.answers.history <;>
      cases commit : call.answers.commit <;>
      simp_all [transact, Session.cursor, Session.execute, Session.send, Session.commit, Dead]

theorem transact_harmless {session : Session Database Instant} (usable : Usable session)
    {call : Call} (harmless : ¬ call.Poisons driver) :
    Usable (transact driver call.flight call.answers session).2 := by
  obtain ⟨started, same⟩ := transact_usable usable call.flight call.answers
  rw [same]
  simp only [Call.Poisons, not_or, not_and] at harmless
  obtain ⟨kept, harmless⟩ := harmless
  cases adapts : driver call.flight.modelDump with
  | false =>
    cases upsert : call.answers.upsert <;>
      simp_all [transact, Session.cursor, Session.execute, Session.send, Usable]
  | true =>
    obtain ⟨upsert, history, commit⟩ := harmless adapts
    cases answer : call.answers.commit <;> cases first : call.answers.upsert <;>
      simp_all [transact, Session.cursor, Session.execute, Session.send, Session.commit,
        Usable]

theorem transact_dead {session : Session Database Instant} (dead : Dead session) (call : Call) :
    ∃ error, transact driver call.flight call.answers session = (.error error, session) := by
  rcases dead with status | status
  · exact ⟨.operationalError, by simp [transact, Session.cursor, status]⟩
  · exact ⟨.inFailedSqlTransaction, by simp [transact, Session.cursor, Session.execute, status]⟩

/-- Behind a dead session no call returns, so the calls are isolated exactly
when none of them would have succeeded. -/
theorem isolated_dead {session : Session Database Instant} (dead : Dead session)
    (calls : List Call) :
    Isolated driver { conn := some session } calls ↔ ∀ call ∈ calls, ¬ call.Clean driver := by
  induction calls with
  | nil => simp [Isolated]
  | cons call rest ih =>
    obtain ⟨error, failed⟩ : ∃ error, transact driver call.flight call.answers session =
        (.error error, session) := transact_dead dead call
    simp only [Isolated, upsertFlight, failed, List.forall_mem_cons, ih]
    refine and_congr_left fun _ => ⟨fun isolated clean => ?_, fun dirty clean => absurd clean dirty⟩
    exact absurd (isolated clean).1 (by simp [Except.mapError])

theorem isolated_usable {session : Session Database Instant} (usable : Usable session)
    (calls : List Call) :
    Isolated driver { conn := some session } calls ↔
      calls.Pairwise fun earlier later => earlier.Poisons driver → ¬ later.Clean driver := by
  induction calls generalizing session with
  | nil => simp [Isolated]
  | cons call rest ih =>
    have first : call.Clean driver →
        ((transact driver call.flight call.answers session).1.mapError StoreError.database) =
          .ok () ∧ ∃ now, some (transact driver call.flight call.answers session).2.committed =
            some (session.committed.record call.flight.modelDump now) := by
      intro clean
      obtain ⟨now, done⟩ := transact_clean usable clean
      exact ⟨by simp [done, Except.mapError], now, by simp [done]⟩
    rw [List.pairwise_cons]
    simp only [Isolated, upsertFlight, committed, Option.map_some]
    rw [and_iff_right first]
    by_cases poisons : call.Poisons driver
    · rw [isolated_dead (transact_poisoned usable poisons)]
      constructor
      · intro dirty
        exact ⟨fun later member _ => dirty later member,
          List.pairwise_of_forall_mem_list fun _ _ later member _ => dirty later member⟩
      · rintro ⟨apart, _⟩ later member
        exact apart later member poisons
    · rw [ih (transact_harmless usable poisons)]
      simp [poisons]

/-- Calls after `connect()` are isolated from each other exactly when no call
which the server refused, or which lost the connection, precedes one that would
have succeeded by itself. -/
theorem isolated_iff (driver : Driver) (tables : Database) (calls : List Call) :
    Isolated driver (connect tables {}) calls ↔
      calls.Pairwise fun earlier later => earlier.Poisons driver → ¬ later.Clean driver :=
  isolated_usable (Or.inl rfl) calls

private def aircraft (icao24 : String) (category : Option Int) : EnrichedFlight where
  icao24 := icao24
  originCountry := "Israel"
  category := category
  fetchedAt := ⟨1735400000000000, by decide, by decide⟩

/-- A category outside `INTEGER`, which the server refuses. -/
def refusedCall : Call where
  flight := aircraft "4ca7b3" (some (2 ^ 31))
  answers := ⟨1735400011000000, .refused, .accepted, .accepted⟩

def acceptedCall : Call where
  flight := aircraft "738065" none
  answers := ⟨1735400012000000, .accepted, .accepted, .accepted⟩

/-- One refused row disables storage: the next call fails although nothing is
wrong with its flight. -/
theorem refused_call_not_isolated :
    ¬ ∀ driver tables calls, Isolated driver (connect tables {}) calls := by
  intro isolated
  obtain ⟨_, second, _⟩ := isolated (fun _ => true) .empty [refusedCall, acceptedCall]
  have clean : acceptedCall.Clean fun _ => true := by decide
  exact nomatch (second clean).1

end FlightRepository
end FlightHub
