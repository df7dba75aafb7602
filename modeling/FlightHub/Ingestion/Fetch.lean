import FlightHub.Ingestion.OpenSkyClient

/-! One call of `fetch_states` as a whole: the attempt with which it ends, the
entries which that one was answered, and the state vectors taken from them. -/
namespace FlightHub
open Python

namespace OpenSkyClient

section
variable (pydantic : Pydantic) (mets : Nat → Attempt) (client : OpenSkyClient)

/-- What attempt `k` of `fetch_states` returns or raises. -/
def attempt (k : Nat) : Except Exception (List StateVector) := do
  let entries ← rawStates (← received mets client k)
  readStates pydantic entries

/-- The attempt with which the call ends. -/
def lastAttempt : Nat :=
  ((List.range 5).find? fun k => !Tenacity.retried isRateLimited (attempt pydantic mets client k)).getD 4

/-- The entries among which the call finds its state vectors. -/
def answeredEntries : Except Exception (List Json) := do
  rawStates (← received mets client (lastAttempt pydantic mets client))

/-- The client after the call, which asked for a token in each attempt. -/
def afterFetch : OpenSkyClient := before mets client (lastAttempt pydantic mets client + 1)

end

section Lemmas
variable {pydantic : Pydantic} {mets : Nat → Attempt} {client : OpenSkyClient}

theorem fetchStates_eq : client.fetchStates pydantic mets =
    attempt pydantic mets client (lastAttempt pydantic mets client) := by
  have attempts : client.fetchStates pydantic mets =
      Tenacity.retry isRateLimited 5 (attempt pydantic mets client) := rfl
  rw [attempts, lastAttempt]
  cases found : (List.range 5).find? fun k =>
      !Tenacity.retried isRateLimited (attempt pydantic mets client k) with
  | some last =>
    obtain ⟨settled, member, before⟩ := List.find?_range_eq_some.mp found
    refine Tenacity.retry_eq (List.mem_range.mp member) (fun k small => ?_) (.inr ?_)
    · simpa using before k small
    · simpa using settled
  | none =>
    have again := List.find?_range_eq_none.mp found
    refine Tenacity.retry_eq (by decide) (fun k small => ?_) (.inl rfl)
    simpa using again k (Nat.lt_trans small (by decide))

/-- The state vector which the loop takes from an entry. -/
def accepted (pydantic : Pydantic) (raw : Json) : Option StateVector :=
  (StateVector.fromArray pydantic raw).toOption

theorem readStates_ok {entries : List Json} {states : List StateVector}
    (read : readStates pydantic entries = .ok states) :
    states = entries.filterMap (accepted pydantic) := by
  induction entries generalizing states with
  | nil =>
    cases read
    rfl
  | cons raw rest ih =>
    simp only [readStates] at read
    split at read
    · next state made =>
      obtain ⟨others, later, rfl⟩ : ∃ others, readStates pydantic rest = .ok others ∧
          state :: others = states := by
        cases later : readStates pydantic rest with
        | error exception =>
          rw [later] at read
          cases read
        | ok others =>
          rw [later] at read
          cases read
          exact ⟨others, rfl, rfl⟩
      have own : accepted pydantic raw = some state := by rw [accepted, made]; rfl
      rw [List.filterMap_cons_some own, ← ih later]
    · next exception raised =>
      have none_read : accepted pydantic raw = none := by rw [accepted, raised]; rfl
      split at read
      · rw [List.filterMap_cons_none none_read, ← ih read]
      · cases read

theorem fetchStates_ok {states : List StateVector} (returned : client.fetchStates pydantic mets = .ok states) :
    ∃ entries, answeredEntries pydantic mets client = .ok entries ∧
      states = entries.filterMap (accepted pydantic) := by
  rw [fetchStates_eq, attempt] at returned
  unfold answeredEntries
  cases payload : received mets client (lastAttempt pydantic mets client) with
  | error exception =>
    rw [payload] at returned
    cases returned
  | ok answer =>
    simp only [payload, bind, Except.bind] at returned ⊢
    cases listed : rawStates answer with
    | error exception =>
      rw [listed] at returned
      cases returned
    | ok entries =>
      rw [listed] at returned
      exact ⟨entries, rfl, readStates_ok returned⟩

end Lemmas
end OpenSkyClient
end FlightHub
