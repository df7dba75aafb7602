import Mathlib.Logic.Relation

/-! Finite labeled executions of an arbitrary step relation. A label names who
moves and what the environment answers, so one list of labels is one schedule.
Conditions on a run are conditions on its steps. -/
namespace Transition
variable {S L : Type*}

/-- A run grows at its end, so an induction sees the last step first. -/
inductive Run (step : S → L → S → Prop) (s : S) : List L → S → Prop where
  | refl : Run step s [] s
  | next : Run step s ls t → step t l u → Run step s (ls ++ [l]) u

def Steps (next : S → L → Option S) (s : S) (l : L) (t : S) : Prop := next s l = some t

/-- The steps which meet a condition on the state before them and their label. -/
def Meeting (step : S → L → S → Prop) (condition : S → L → Prop) (s : S) (l : L) (t : S) : Prop :=
  step s l t ∧ condition s l

namespace Run
variable {step : S → L → S → Prop}

theorem single (moved : step s l t) : Run step s [l] t := by
  simpa only [List.nil_append] using Run.next .refl moved

theorem trans (first : Run step s ls t) (second : Run step t ms u) :
    Run step s (ls ++ ms) u := by
  induction second with
  | refl => simpa only [List.append_nil] using first
  | next _ moved ih => simpa only [List.append_assoc] using ih.next moved

theorem invariant {P : S → Prop} (preserves : ∀ {s l t}, P s → step s l t → P t)
    (run : Run step s ls t) (initial : P s) : P t := by
  induction run with
  | refl => exact initial
  | next _ moved ih => exact preserves ih moved

theorem mono {weaker : S → L → S → Prop} (implies : ∀ {s l t}, step s l t → weaker s l t)
    (run : Run step s ls t) : Run weaker s ls t := by
  induction run with
  | refl => exact .refl
  | next _ moved ih => exact ih.next (implies moved)

/-- An invariant which implies a condition makes the steps of a run meet it. -/
theorem meeting {P : S → Prop} {weaker : S → L → S → Prop}
    (preserves : ∀ {s l t}, P s → step s l t → P t ∧ weaker s l t)
    (run : Run step s ls t) (initial : P s) : Run weaker s ls t := by
  suffices both : P t ∧ Run weaker s ls t from both.2
  induction run with
  | refl => exact ⟨initial, .refl⟩
  | next _ moved ih =>
    obtain ⟨held, before⟩ := ih
    obtain ⟨kept, meets⟩ := preserves held moved
    exact ⟨kept, before.next meets⟩

/-- Seen through a view which each step moves by one step of its own or leaves,
a run is a run. -/
theorem project {T M : Type*} (view : S → T) {viewed : T → M → T → Prop}
    (follows : ∀ {s l t}, step s l t → view t = view s ∨ ∃ m, viewed (view s) m (view t))
    (run : Run step s ls t) : ∃ ms, Run viewed (view s) ms (view t) := by
  induction run with
  | refl => exact ⟨[], .refl⟩
  | next _ moved ih =>
    obtain ⟨ms, before⟩ := ih
    rcases follows moved with same | ⟨m, own⟩
    · exact ⟨ms, same ▸ before⟩
    · exact ⟨_, before.next own⟩

/-- What comes to hold in a run does so at one of its steps. -/
theorem crossing {P : S → Prop} (run : Run step s ls t) (initial : ¬P s) (final : P t) :
    ∃ before rest u l v, ls = before ++ l :: rest ∧ Run step s before u ∧ step u l v ∧ ¬P u ∧ P v := by
  induction run with
  | refl => exact absurd final initial
  | @next ls u l v run moved ih =>
    by_cases held : P u
    · obtain ⟨before, rest, crossed⟩ := ih held
      obtain ⟨w, m, x, rfl, facts⟩ := crossed
      exact ⟨before, rest ++ [l], w, m, x, by simp, facts⟩
    · exact ⟨ls, [], u, l, v, rfl, run, moved, held, final⟩

theorem forget {condition : S → L → Prop} (run : Run (Meeting step condition) s ls t) :
    Run step s ls t :=
  run.mono And.left

end Run

/-- Along the labels the step `l` is taken in the state `u`. -/
def Taken (step : S → L → S → Prop) (s : S) (ls : List L) (u : S) (l : L) : Prop :=
  ∃ before rest, ls = before ++ l :: rest ∧ Run step s before u

theorem Taken.append {step : S → L → S → Prop} (taken : Taken step s ls u l) (ms : List L) :
    Taken step s (ls ++ ms) u l := by
  obtain ⟨before, rest, rfl, run⟩ := taken
  exact ⟨before, rest ++ ms, by simp, run⟩

def replay (next : S → L → Option S) : S → List L → Option S
  | s, [] => some s
  | s, l :: ls => (next s l).bind (replay next · ls)

theorem replay_append {next : S → L → Option S} {s t : S} {ls ms : List L}
    (first : replay next s ls = some t) : replay next s (ls ++ ms) = replay next t ms := by
  induction ls generalizing s with
  | nil =>
    cases first
    rfl
  | cons l ls ih =>
    obtain ⟨middle, moved, rest⟩ := Option.bind_eq_some_iff.mp first
    rw [List.cons_append, replay, moved]
    exact ih rest

theorem run_of_replay {next : S → L → Option S} {s t : S} {ls : List L}
    (replayed : replay next s ls = some t) : Run (Steps next) s ls t := by
  induction ls generalizing s with
  | nil =>
    cases replayed
    exact .refl
  | cons l ls ih =>
    obtain ⟨middle, moved, rest⟩ := Option.bind_eq_some_iff.mp replayed
    exact (Run.single moved).trans (ih rest)

def guarded (next : S → L → Option S) (check : S → L → Bool) (s : S) (l : L) : Option S :=
  if check s l then next s l else none

theorem Run.of_guarded {next : S → L → Option S} {check : S → L → Bool} {condition : S → L → Prop}
    (sound : ∀ s l, check s l = true → condition s l) {ls : List L}
    (run : Run (Steps (guarded next check)) s ls t) : Run (Meeting (Steps next) condition) s ls t := by
  refine run.mono ?_
  intro s l t moved
  obtain ⟨allowed, moved⟩ := Option.ite_none_right_eq_some.mp moved
  exact ⟨moved, sound s l allowed⟩

/-- A schedule whose last state passes a test, from the test's value alone. -/
theorem run_of_test {next : S → L → Option S} {s : S} {ls : List L} {test : S → Bool}
    (passed : (replay next s ls).any test = true) :
    ∃ t, Run (Steps next) s ls t ∧ test t = true := by
  obtain ⟨t, replayed, tested⟩ := (Option.any_eq_true _ _).mp passed
  exact ⟨t, run_of_replay replayed, tested⟩

end Transition
