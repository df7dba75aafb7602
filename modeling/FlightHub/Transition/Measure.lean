import FlightHub.Transition.Run
import Mathlib.Algebra.BigOperators.Group.List.Basic
import Mathlib.Algebra.Ring.Nat

/-! Runs which a measure bounds: each step lowers a natural number, under an
invariant, so a run is no longer than the measure of its first state and every
run can be continued to a state without a step. Then the measure of a state
which holds one number for each of several agents. -/
namespace Transition
variable {S L : Type*} {step : S → L → S → Prop} {Inv : S → Prop} {measure : S → Nat} {s t : S}

def Descends (step : S → L → S → Prop) (Inv : S → Prop) (measure : S → Nat) : Prop :=
  ∀ s l t, Inv s → step s l t → Inv t ∧ measure t < measure s

theorem Run.length_le (descends : Descends step Inv measure) (run : Run step s ls t)
    (initial : Inv s) : Inv t ∧ ls.length + measure t ≤ measure s := by
  induction run with
  | refl => exact ⟨initial, by simp⟩
  | next _ moved ih =>
    obtain ⟨held, bound⟩ := ih
    obtain ⟨kept, lower⟩ := descends _ _ _ held moved
    refine ⟨kept, ?_⟩
    rw [List.length_append, List.length_singleton]
    omega

/-- The steps of one kind lower the measure and no other step raises it: the
measure bounds how many of that kind a run has. -/
theorem Run.countP_le {own : L → Bool}
    (descends : ∀ s l t, Inv s → step s l t → Inv t ∧ measure t + (own l).toNat ≤ measure s)
    (run : Run step s ls t) (initial : Inv s) : Inv t ∧ ls.countP own + measure t ≤ measure s := by
  induction run with
  | refl => exact ⟨initial, by simp⟩
  | @next _ _ l _ _ moved ih =>
    obtain ⟨held, bound⟩ := ih
    obtain ⟨kept, lower⟩ := descends _ _ _ held moved
    refine ⟨kept, ?_⟩
    have counted : [l].countP own = (own l).toNat := by
      cases known : own l <;> simp [known]
    rw [List.countP_append, counted]
    omega

/-- Where every state short of the goal has a step, the goal is reached. -/
theorem exists_run_to {Goal : S → Prop} (descends : Descends step Inv measure)
    (progress : ∀ s, Inv s → Goal s ∨ ∃ l t, step s l t) (initial : Inv s) :
    ∃ ls t, Run step s ls t ∧ Goal t := by
  induction bound : measure s using Nat.strongRecOn generalizing s with
  | ind _ ih =>
    rcases progress s initial with reached | ⟨l, t, moved⟩
    · exact ⟨[], s, .refl, reached⟩
    · obtain ⟨kept, lower⟩ := descends _ _ _ initial moved
      obtain ⟨ls, u, rest, reached⟩ := ih (measure t) (bound ▸ lower) kept rfl
      exact ⟨_, u, (Run.single moved).trans rest, reached⟩

section Agents
variable {A : Type*} [DecidableEq A] {agents : List A} {before after : A → Nat} {agent : A}

/-- The sum over agents of which one has moved. -/
theorem sum_map_moved (nodup : agents.Nodup) (member : agent ∈ agents)
    (others : ∀ other ≠ agent, after other = before other) :
    (agents.map after).sum + before agent = (agents.map before).sum + after agent := by
  have rest : (agents.erase agent).map after = (agents.erase agent).map before := by
    refine List.map_congr_left fun other left => others other ?_
    rintro rfl
    exact nodup.not_mem_erase left
  have split := List.perm_cons_erase member
  rw [(split.map after).sum_eq, (split.map before).sum_eq, List.map_cons, List.map_cons,
    List.sum_cons, List.sum_cons, rest]
  omega

end Agents
end Transition
