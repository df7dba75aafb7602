import FlightHub.Interaction.Program

/-! Monitors of programs. A monitor follows the exchanges of a run and stops at
one which its protocol does not allow, so a program which a monitor follows to
its end keeps the protocol. -/
namespace Interaction

variable {Q : Type} {A : Q → Type} {X α β S : Type}

abbrev Monitor (S Q : Type) (A : Q → Type) (X : Type) := S → Exchange Q A X → Option S

/-- The state behind the exchanges; `none` where one is not allowed. -/
def Monitor.watch (step : Monitor S Q A X) : S → List (Exchange Q A X) → Option S
  | s, [] => some s
  | s, exchange :: rest => (step s exchange).bind (step.watch · rest)

theorem Monitor.watch_append {step : Monitor S Q A X} {s t : S} {first rest : List (Exchange Q A X)}
    (watched : step.watch s first = some t) : step.watch s (first ++ rest) = step.watch t rest := by
  induction first generalizing s with
  | nil =>
    cases watched
    rfl
  | cons exchange first ih =>
    obtain ⟨u, allowed, watched⟩ := Option.bind_eq_some_iff.mp watched
    rw [List.cons_append, watch, allowed]
    exact ih watched

namespace Program

/-- The monitor follows every run from `s`, to a state which fits the result. -/
def Follows (step : Monitor S Q A X) (s : S) (program : Program Q A X α) (post : Except X α → S → Prop) :
    Prop :=
  program.Ensures fun trace result => ∃ t, step.watch s trace = some t ∧ post result t

section Follows
variable {step : Monitor S Q A X} {s t : S} {program : Program Q A X α} {mid : Except X α → S → Prop}
  {post : Except X β → S → Prop}

theorem Follows.weaken {weaker : Except X α → S → Prop} (follows : Follows step s program mid)
    (implies : ∀ result t, mid result t → weaker result t) : Follows step s program weaker :=
  Ensures.weaken follows fun _ result ⟨t, watched, holds⟩ => ⟨t, watched, implies result t holds⟩

theorem follows_done {result : Except X β} (holds : post result s) :
    Follows step s (done result : Program Q A X β) post :=
  ensures_done ⟨s, rfl, holds⟩

theorem follows_call {query : Q} {post : Except X (A query) → S → Prop}
    (allowed : ∀ answer, ∃ t, step s ⟨query, answer⟩ = some t ∧ post answer t) :
    Follows step s (call query) post := by
  refine ensures_call fun answer => ?_
  obtain ⟨t, moved, holds⟩ := allowed answer
  refine ⟨t, ?_, holds⟩
  rw [Monitor.watch, moved]
  rfl

theorem Follows.andThen {next : Except X α → Program Q A X β} (first : Follows step s program mid)
    (continued : ∀ result t, mid result t → Follows step t (next result) post) :
    Follows step s (program.andThen next) post := by
  refine Ensures.andThen first fun before result reached => ?_
  obtain ⟨t, watched, holds⟩ := reached
  refine Ensures.weaken (continued result t holds) fun after final ended => ?_
  obtain ⟨u, later, fits⟩ := ended
  exact ⟨u, (Monitor.watch_append watched).trans later, fits⟩

theorem Follows.bind {next : α → Program Q A X β} (first : Follows step s program mid)
    (raised : ∀ exception t, mid (.error exception) t → post (.error exception) t)
    (continued : ∀ value t, mid (.ok value) t → Follows step t (next value) post) :
    Follows step s (program >>= next) post := by
  refine first.andThen fun result t holds => ?_
  cases result with
  | ok value => exact continued value t holds
  | error exception => exact follows_done (raised exception t holds)

theorem Follows.handle {handler : X → Option (Program Q A X α)} {post : Except X α → S → Prop}
    (first : Follows step s program mid) (returned : ∀ value t, mid (.ok value) t → post (.ok value) t)
    (unhandled : ∀ exception t, mid (.error exception) t → post (.error exception) t)
    (handled : ∀ exception handled t, handler exception = some handled → mid (.error exception) t →
      Follows step t handled post) : Follows step s (program.handle handler) post := by
  refine first.andThen fun result t holds => ?_
  cases result with
  | ok value => exact follows_done (returned value t holds)
  | error exception =>
    cases chosen : handler exception with
    | none =>
      simp only [chosen, Option.getD_none]
      exact follows_done (unhandled exception t holds)
    | some own =>
      simp only [chosen, Option.getD_some]
      exact handled exception own t chosen holds

/-- A block keeps the protocol when its ends do and its body does inside it. -/
theorem Follows.within {enter : Program Q A X Unit} {leave : Except X α → Program Q A X Unit}
    {inside : S} {post : Except X α → S → Prop}
    (first : Follows step s enter fun result t => match result with
      | .ok _ => t = inside
      | .error exception => post (.error exception) t)
    (second : Follows step inside program mid)
    (third : ∀ result t, mid result t → Follows step t (leave result) fun ended u => match ended with
      | .ok _ => post result u
      | .error exception => post (.error exception) u) :
    Follows step s (within enter leave program) post := by
  refine first.bind (fun _ _ holds => holds) fun _ t same => ?_
  obtain rfl : t = inside := same
  refine second.andThen fun result u holds => ?_
  exact (third result u holds).bind (fun _ _ ended => ended) fun _ _ ended => follows_done ended

end Follows

end Program
end Interaction
