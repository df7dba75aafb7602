import Mathlib.Data.List.Count

/-! Programs which ask their surroundings and may raise. What the surroundings
answer is left open, so a property of all runs holds whatever they do. A run is
the exchanges in their order and the result. -/
namespace Interaction

/-- The answer to a query `q` is of type `A q`, or an exception. -/
inductive Program (Q : Type) (A : Q → Type) (X α : Type) where
  | done (result : Except X α)
  | ask (query : Q) (next : Except X (A query) → Program Q A X α)

structure Exchange (Q : Type) (A : Q → Type) (X : Type) where
  query : Q
  answer : Except X (A query)

namespace Program
variable {Q : Type} {A : Q → Type} {X α β : Type}

/-- Goes on with the result, also where that is an exception. -/
def andThen (program : Program Q A X α) (next : Except X α → Program Q A X β) : Program Q A X β :=
  match program with
  | done result => next result
  | ask query answered => ask query fun answer => (answered answer).andThen next

def raise (exception : X) : Program Q A X α := done (.error exception)

def call (query : Q) : Program Q A X (A query) := ask query done

instance : Monad (Program Q A X) where
  pure value := done (.ok value)
  bind program next := program.andThen fun
    | .ok value => next value
    | .error exception => raise exception

/-- `try: program`, where the handler is chosen by the exception. -/
def handle (program : Program Q A X α) (handler : X → Option (Program Q A X α)) : Program Q A X α :=
  program.andThen fun
    | .ok value => done (.ok value)
    | .error exception => (handler exception).getD (raise exception)

/-- `with enter: body`. What `leave` raises takes the place of the result. -/
def within (enter : Program Q A X Unit) (leave : Except X α → Program Q A X Unit)
    (body : Program Q A X α) : Program Q A X α := do
  enter
  body.andThen fun result => do
    leave result
    done result

inductive Runs : Program Q A X α → List (Exchange Q A X) → Except X α → Prop where
  | done (result : Except X α) : Runs (done result) [] result
  | ask {query : Q} {next : Except X (A query) → Program Q A X α} (answer : Except X (A query))
      {trace : List (Exchange Q A X)} {result : Except X α} (rest : Runs (next answer) trace result) :
      Runs (ask query next) (⟨query, answer⟩ :: trace) result

/-- The run in surroundings which answer a query in one way. -/
def play (answers : (query : Q) → Except X (A query)) :
    Program Q A X α → List (Exchange Q A X) × Except X α
  | done result => ([], result)
  | ask query next =>
    let (trace, result) := play answers (next (answers query))
    (⟨query, answers query⟩ :: trace, result)

theorem runs_play (answers : (query : Q) → Except X (A query)) (program : Program Q A X α) :
    Runs program (program.play answers).1 (program.play answers).2 := by
  induction program with
  | done result => exact .done result
  | ask query next ih => exact .ask _ (ih (answers query))

theorem answer_of_mem_play {answers : (query : Q) → Except X (A query)} {program : Program Q A X α}
    {exchange : Exchange Q A X} (member : exchange ∈ (program.play answers).1) :
    exchange.answer = answers exchange.query := by
  induction program with
  | done result => cases member
  | ask query next ih =>
    rcases List.mem_cons.mp member with rfl | later
    · rfl
    · exact ih _ later

/-! ### What a run consists of -/

section Runs
variable {program : Program Q A X α} {trace first rest : List (Exchange Q A X)} {result : Except X α}
  {final : Except X β}

theorem runs_done_iff {given : Except X α} :
    Runs (done given : Program Q A X α) trace result ↔ trace = [] ∧ result = given := by
  constructor
  · intro run
    cases run
    exact ⟨rfl, rfl⟩
  · rintro ⟨rfl, rfl⟩
    exact .done result

theorem runs_ask_iff {query : Q} {next : Except X (A query) → Program Q A X α} :
    Runs (ask query next) trace result ↔
      ∃ answer rest, trace = ⟨query, answer⟩ :: rest ∧ Runs (next answer) rest result := by
  constructor
  · intro run
    cases run with
    | ask answer rest => exact ⟨answer, _, rfl, rest⟩
  · rintro ⟨answer, rest, rfl, run⟩
    exact .ask answer run

theorem runs_call_iff {query : Q} {answer : Except X (A query)} :
    Runs (call query : Program Q A X (A query)) trace answer ↔ trace = [⟨query, answer⟩] := by
  simp only [call, runs_ask_iff, runs_done_iff]
  constructor
  · rintro ⟨given, rest, rfl, rfl, rfl⟩
    rfl
  · rintro rfl
    exact ⟨answer, [], rfl, rfl, rfl⟩

theorem Runs.andThen {next : Except X α → Program Q A X β} (run : Runs program first result)
    (continued : Runs (next result) rest final) : Runs (program.andThen next) (first ++ rest) final := by
  induction run with
  | done => exact continued
  | ask answer _ ih => exact .ask answer (ih continued)

/-- A run of a sequence is a run of its first part and one of what follows. -/
theorem runs_andThen_iff {next : Except X α → Program Q A X β} :
    Runs (program.andThen next) trace final ↔ ∃ first result rest, Runs program first result ∧
      Runs (next result) rest final ∧ trace = first ++ rest := by
  constructor
  · intro run
    induction program generalizing trace with
    | done result => exact ⟨[], result, trace, .done result, run, rfl⟩
    | ask query answered ih =>
      obtain ⟨answer, trace, rfl, answeredRun⟩ := runs_ask_iff.mp run
      obtain ⟨first, result, rest, before, continued, rfl⟩ := ih answer answeredRun
      exact ⟨_ :: first, result, rest, .ask answer before, continued, rfl⟩
  · rintro ⟨first, result, rest, before, continued, rfl⟩
    exact before.andThen continued

end Runs

/-! ### What holds of every run -/

/-- Every run of the program ends with this trace and result. -/
def Ensures (program : Program Q A X α) (post : List (Exchange Q A X) → Except X α → Prop) : Prop :=
  ∀ trace result, Runs program trace result → post trace result

section Ensures
variable {program : Program Q A X α} {mid : List (Exchange Q A X) → Except X α → Prop}
  {post : List (Exchange Q A X) → Except X β → Prop}

theorem Ensures.weaken {weaker : List (Exchange Q A X) → Except X α → Prop} (ensures : program.Ensures mid)
    (implies : ∀ trace result, mid trace result → weaker trace result) : program.Ensures weaker :=
  fun trace result run => implies trace result (ensures trace result run)

theorem ensures_done {result : Except X β} (holds : post [] result) : (done result).Ensures post := by
  intro trace final run
  obtain ⟨rfl, rfl⟩ := runs_done_iff.mp run
  exact holds

theorem ensures_call {query : Q} {post : List (Exchange Q A X) → Except X (A query) → Prop}
    (holds : ∀ answer, post [⟨query, answer⟩] answer) : (call query).Ensures post := by
  intro trace answer run
  rw [runs_call_iff.mp run]
  exact holds answer

/-- What follows is to turn the first part's postcondition into that of the whole. -/
theorem Ensures.andThen {next : Except X α → Program Q A X β} (ensures : program.Ensures mid)
    (continued : ∀ first result, mid first result →
      (next result).Ensures fun rest final => post (first ++ rest) final) :
    (program.andThen next).Ensures post := by
  intro trace final run
  obtain ⟨first, result, rest, before, after, rfl⟩ := runs_andThen_iff.mp run
  exact continued first result (ensures first result before) rest final after

theorem Ensures.bind {next : α → Program Q A X β} (ensures : program.Ensures mid)
    (raised : ∀ first exception, mid first (.error exception) → post first (.error exception))
    (continued : ∀ first value, mid first (.ok value) →
      (next value).Ensures fun rest final => post (first ++ rest) final) :
    (program >>= next).Ensures post := by
  refine ensures.andThen fun first result holds => ?_
  cases result with
  | error exception =>
    refine ensures_done ?_
    rw [List.append_nil]
    exact raised first exception holds
  | ok value => exact continued first value holds

/-- One exchange, and the rest of the program behind its answer. -/
theorem ensures_call_bind {query : Q} {next : A query → Program Q A X β}
    (raised : ∀ exception, post [⟨query, .error exception⟩] (.error exception))
    (continued : ∀ value, (next value).Ensures fun rest final => post (⟨query, .ok value⟩ :: rest) final) :
    (call query >>= next).Ensures post := by
  intro trace final run
  obtain ⟨first, answer, rest, asked, after, rfl⟩ := runs_andThen_iff.mp run
  rw [runs_call_iff.mp asked]
  cases answer with
  | ok value => exact continued value rest final after
  | error exception =>
    obtain ⟨rfl, rfl⟩ := runs_done_iff.mp after
    exact raised exception

theorem Ensures.handle {handler : X → Option (Program Q A X α)}
    {post : List (Exchange Q A X) → Except X α → Prop} (ensures : program.Ensures mid)
    (returned : ∀ first value, mid first (.ok value) → post first (.ok value))
    (raised : ∀ first exception, mid first (.error exception) →
      ((handler exception).getD (raise exception)).Ensures fun rest final => post (first ++ rest) final) :
    (program.handle handler).Ensures post := by
  refine ensures.andThen fun first result holds => ?_
  cases result with
  | ok value =>
    refine ensures_done ?_
    rw [List.append_nil]
    exact returned first value holds
  | error exception => exact raised first exception holds

/-- The block is entered, run and left; where it is not entered the rest is not run. -/
theorem Ensures.within {enter : Program Q A X Unit} {leave : Except X β → Program Q A X Unit}
    {body : Program Q A X β} {entered : List (Exchange Q A X) → Except X Unit → Prop}
    {ran : List (Exchange Q A X) → Except X β → Prop}
    {left : Except X β → List (Exchange Q A X) → Except X Unit → Prop} (first : enter.Ensures entered)
    (second : body.Ensures ran) (third : ∀ result, (leave result).Ensures (left result))
    (outside : ∀ before exception, entered before (.error exception) → post before (.error exception))
    (inside : ∀ before block result after, entered before (.ok ()) → ran block result →
      left result after (.ok ()) → post (before ++ (block ++ after)) result)
    (disturbed : ∀ before block result after exception, entered before (.ok ()) → ran block result →
      left result after (.error exception) → post (before ++ (block ++ after)) (.error exception)) :
    (within enter leave body).Ensures post := by
  refine first.bind outside fun before _ opened => ?_
  refine second.andThen fun block result held => ?_
  refine (third result).bind ?_ ?_
  · intro after exception closed
    exact disturbed before block result after exception opened held closed
  · intro after _ closed
    refine ensures_done ?_
    rw [List.append_nil]
    exact inside before block result after opened held closed

end Ensures

/-! ### Counted queries -/

/-- The exchanges of the counted queries. -/
def occurrences (counted : Q → Bool) (trace : List (Exchange Q A X)) : Nat :=
  trace.countP fun exchange => counted exchange.query

theorem occurrences_append (counted : Q → Bool) (first rest : List (Exchange Q A X)) :
    occurrences counted (first ++ rest) = occurrences counted first + occurrences counted rest :=
  List.countP_append

theorem occurrences_cons (counted : Q → Bool) (exchange : Exchange Q A X) (rest : List (Exchange Q A X)) :
    occurrences counted (exchange :: rest) =
      occurrences counted rest + if counted exchange.query = true then 1 else 0 :=
  List.countP_cons

/-- No run asks the counted queries more often than this. -/
def AtMost (counted : Q → Bool) (bound : Nat) (program : Program Q A X α) : Prop :=
  program.Ensures fun trace _ => occurrences counted trace ≤ bound

section AtMost
variable {counted : Q → Bool} {program : Program Q A X α} {m n : Nat}

theorem AtMost.mono (bounded : AtMost counted m program) (smaller : m ≤ n) : AtMost counted n program :=
  Ensures.weaken bounded fun _ _ least => Nat.le_trans least smaller

theorem atMost_done (result : Except X α) (n : Nat) :
    AtMost counted n (done result : Program Q A X α) :=
  ensures_done (Nat.zero_le n)

theorem atMost_call (query : Q) : AtMost counted (if counted query then 1 else 0)
    (call query : Program Q A X (A query)) := by
  refine ensures_call fun answer => ?_
  cases asked : counted query <;> simp [occurrences, asked]

theorem AtMost.andThen {next : Except X α → Program Q A X β} (first : AtMost counted m program)
    (second : ∀ result, AtMost counted n (next result)) : AtMost counted (m + n) (program.andThen next) := by
  refine Ensures.andThen first fun before result least => ?_
  refine Ensures.weaken (second result) fun after final more => ?_
  rw [occurrences_append]
  exact Nat.add_le_add least more

theorem AtMost.bind {next : α → Program Q A X β} (first : AtMost counted m program)
    (second : ∀ value, AtMost counted n (next value)) : AtMost counted (m + n) (program >>= next) := by
  refine first.andThen fun result => ?_
  cases result with
  | ok value => exact second value
  | error exception => exact atMost_done _ n

theorem AtMost.handle {handler : X → Option (Program Q A X α)} (first : AtMost counted m program)
    (second : ∀ exception handled, handler exception = some handled → AtMost counted n handled) :
    AtMost counted (m + n) (program.handle handler) := by
  refine first.andThen fun result => ?_
  cases result with
  | ok value => exact atMost_done _ n
  | error exception =>
    cases chosen : handler exception with
    | none =>
      simp only [chosen, Option.getD_none]
      exact atMost_done _ n
    | some handled =>
      simp only [chosen, Option.getD_some]
      exact second exception handled chosen

theorem AtMost.within {enter : Program Q A X Unit} {leave : Except X α → Program Q A X Unit} {k : Nat}
    (first : AtMost counted k enter) (second : AtMost counted m program)
    (third : ∀ result, AtMost counted n (leave result)) :
    AtMost counted (k + (m + (n + 0))) (within enter leave program) :=
  first.bind fun _ => second.andThen fun result => (third result).bind fun _ => atMost_done result 0

end AtMost

end Program
end Interaction
