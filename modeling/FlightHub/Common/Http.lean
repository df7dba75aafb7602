import FlightHub.Common.Python

/-! The two packages with which the clients call web services: what an exchange
of `httpx` can end in, and the retries of `tenacity`. The waits between two
attempts are left out. -/
namespace FlightHub
open Python

namespace Http

/-- One exchange: no response, or a status and a body, which is `none` when it
is not JSON. The limits of the interpreter are left out: on the digits of an
integer, and on the depth of a body. -/
inductive Outcome where
  | transportError
  | response (statusCode : Nat) (body : Option Json)

def isSuccess (statusCode : Nat) : Bool := 200 ≤ statusCode && statusCode < 300

namespace Outcome

/-- The exchange raises `httpx.HTTPError`, itself or in `raise_for_status()`. -/
def failed : Outcome → Bool
  | .transportError => true
  | .response statusCode _ => !isSuccess statusCode

/-- The request, `raise_for_status()` and `json()`. -/
def json (outcome : Outcome) : Except Exception Json :=
  match outcome with
  | .transportError => .error .httpError
  | .response statusCode body =>
    if isSuccess statusCode then body.elim (.error .jsonDecodeError) .ok else .error .httpError

theorem json_failed {outcome : Outcome} (failed : outcome.failed = true) :
    outcome.json = .error .httpError := by
  cases outcome with
  | transportError => rfl
  | response statusCode body =>
    simp only [Outcome.failed, Bool.not_eq_true'] at failed
    simp only [json, failed, Bool.false_eq_true, if_false]

theorem json_answered {outcome : Outcome} (answered : outcome.failed = false) :
    ∃ statusCode body, outcome = .response statusCode body ∧
      outcome.json = body.elim (.error .jsonDecodeError) .ok := by
  cases outcome with
  | transportError => cases answered
  | response statusCode body =>
    simp only [Outcome.failed, Bool.not_eq_false'] at answered
    exact ⟨statusCode, body, rfl, by simp only [json, answered, if_true]⟩

end Outcome
end Http

namespace Tenacity

def retried (retryable : Exception → Bool) : Except Exception α → Bool
  | .error exception => retryable exception
  | .ok _ => false

/-- `@retry(stop=stop_after_attempt(more + 1), reraise=True)` around the
attempts from `attempt` on. -/
def retryFrom (retryable : Exception → Bool) (run : Nat → Except Exception α) :
    (more attempt : Nat) → Except Exception α
  | 0, attempt => run attempt
  | more + 1, attempt =>
    if retried retryable (run attempt) then retryFrom retryable run more (attempt + 1) else run attempt

def retry (retryable : Exception → Bool) (stopAfterAttempt : Nat) (run : Nat → Except Exception α) :
    Except Exception α :=
  retryFrom retryable run (stopAfterAttempt - 1) 0

variable {retryable : Exception → Bool} {run : Nat → Except Exception α}

theorem retryFrom_eq {more attempt last : Nat} (bound : last ≤ more)
    (before : ∀ k < last, retried retryable (run (attempt + k)) = true)
    (ends : last = more ∨ retried retryable (run (attempt + last)) = false) :
    retryFrom retryable run more attempt = run (attempt + last) := by
  induction more generalizing attempt last with
  | zero =>
    obtain rfl := Nat.le_zero.mp bound
    rfl
  | succ more ih =>
    cases last with
    | zero =>
      have settled : retried retryable (run attempt) = false := ends.resolve_left (by simp)
      simp [retryFrom, settled]
    | succ last =>
      have again : retried retryable (run attempt) = true := before 0 (Nat.zero_lt_succ _)
      have shift (k : Nat) : attempt + 1 + k = attempt + (k + 1) := by omega
      rw [retryFrom, if_pos again, ← shift last]
      refine @ih (attempt + 1) last (by omega) (fun k small => ?_) ?_
      · rw [shift]
        exact before (k + 1) (by omega)
      · rw [shift]
        exact ends.imp_left Nat.succ.inj

/-- The call ends with the first attempt which is not retried, or with the last. -/
theorem retry_eq {stopAfterAttempt last : Nat} (bound : last < stopAfterAttempt)
    (before : ∀ k < last, retried retryable (run k) = true)
    (ends : last + 1 = stopAfterAttempt ∨ retried retryable (run last) = false) :
    retry retryable stopAfterAttempt run = run last := by
  have ended := @retryFrom_eq _ retryable run (stopAfterAttempt - 1) 0 last (by omega)
    (by simpa using before) (ends.imp (by omega) (by simp))
  simpa only [retry, Nat.zero_add] using ended

/-- The attempt with which a call of `retry` ends. -/
theorem exists_last (again : Nat → Bool) {stopAfterAttempt : Nat} (some_attempt : 0 < stopAfterAttempt) :
    ∃ last < stopAfterAttempt, (∀ k < last, again k = true) ∧
      (last + 1 = stopAfterAttempt ∨ again last = false) := by
  induction stopAfterAttempt with
  | zero => exact absurd some_attempt (Nat.lt_irrefl 0)
  | succ count ih =>
    rcases Nat.eq_zero_or_pos count with rfl | positive
    · exact ⟨0, Nat.one_pos, fun k small => absurd small (Nat.not_lt_zero k), .inl rfl⟩
    · obtain ⟨last, bound, before, ended | settled⟩ := ih positive
      · cases decided : again last with
        | false => exact ⟨last, by omega, before, .inr decided⟩
        | true =>
          refine ⟨last + 1, by omega, fun k small => ?_, .inl (by omega)⟩
          rcases Nat.lt_succ_iff_lt_or_eq.mp small with earlier | rfl
          · exact before k earlier
          · exact decided
      · exact ⟨last, by omega, before, .inr settled⟩

end Tenacity
end FlightHub
