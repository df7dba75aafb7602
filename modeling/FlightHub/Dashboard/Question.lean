import FlightHub.Dashboard.Panels

/-! The question panel keeps to its limits whatever the model answers and however
the database fails: what it executes is what the check returned for the reply,
once; its connection is left once, and committed only behind an answer; and an
exception ends in an error on the page. -/
namespace FlightHub
open Python Interaction Streamlit

namespace Dashboard

namespace Query
variable {E V : Type}

def completes : Query E V → Bool
  | .complete _ _ => true
  | _ => false

def connects : Query E V → Bool
  | .connect _ => true
  | _ => false

def executes : Query E V → Bool
  | .execute _ => true
  | _ => false

def leaves : Query E V → Bool
  | .leave _ => true
  | _ => false

def displays : Query E V → Bool
  | .display _ => true
  | _ => false

end Query

/-- The connections which a run opened. -/
def opened {E V : Type} (trace : Trace E V) : Nat :=
  trace.countP fun exchange => exchange.query.connects && !failed exchange.answer

section Panel
variable {V : Type} {lib : Library V} {provider : Option Provider} {dsn question : String} {input : Input}
  {trace : Trace (Widget V) V}

/-- The outcome of a block whose end is disturbed. -/
def disturbed {α : Type} (result : Outcome α) (last : Outcome Unit) : Outcome α := last.bind fun _ => result

/-- The runs of the `try` block. -/
inductive Attempted (lib : Library V) (dsn question : String) :
    Trace (Widget V) V → Outcome (TextToSql.Result V) → Prop where
  | unreachable (how : Interrupt Failure) : Attempted lib dsn question [⟨.connect dsn, .error how⟩] (.error how)
  | interrupted (how : Interrupt Failure) (left : Outcome Unit) : Attempted lib dsn question
      [⟨.connect dsn, .ok ()⟩, ⟨.display (.spinner "Generating and running SQL..."), .error how⟩,
        ⟨.leave true, left⟩] (disturbed (.error how) left)
  | asked {block : Trace (Widget V) V} {result : Outcome (TextToSql.Result V)} (ended left : Outcome Unit)
      (asked : TextToSql.Asked lib.unicode lib.sqlparse lib.dumpsRows question 200 block result) :
      Attempted lib dsn question
        (⟨.connect dsn, .ok ()⟩ :: ⟨.display (.spinner "Generating and running SQL..."), .ok ()⟩ ::
          (block ++ [⟨.display .spinnerEnd, ended⟩, ⟨.leave (failed (disturbed result ended)), left⟩]))
        (disturbed (disturbed result ended) left)

theorem attemptQuestion_attempted :
    (attemptQuestion lib dsn question).Ensures (Attempted lib dsn question) := by
  have spinner : (withSpinner "Generating and running SQL..."
      (TextToSql.answerQuestion lib.unicode lib.sqlparse lib.dumpsRows question)).Ensures
      fun trace result =>
        (∃ how, trace = [⟨.display (.spinner "Generating and running SQL..."), .error how⟩] ∧
          result = .error how) ∨
        ∃ block final ended,
          TextToSql.Asked lib.unicode lib.sqlparse lib.dumpsRows question 200 block final ∧
          trace = ⟨.display (.spinner "Generating and running SQL..."), .ok ()⟩ ::
            (block ++ [⟨.display .spinnerEnd, ended⟩]) ∧ result = disturbed final ended := by
    refine Program.ensures_call_bind (fun how => .inl ⟨how, rfl, rfl⟩) fun _ => ?_
    refine TextToSql.answerQuestion_asked.andThen fun block final asked => ?_
    refine Program.ensures_call_bind (fun how => ?_) fun _ => Program.ensures_done ?_
    · exact .inr ⟨block, final, .error how, asked, rfl, rfl⟩
    · exact .inr ⟨block, final, .ok (), asked, rfl, rfl⟩
  refine Program.ensures_call_bind (fun how => .unreachable how) fun _ => ?_
  refine spinner.andThen fun inner result outcome => ?_
  rcases outcome with ⟨how, rfl, rfl⟩ | ⟨block, final, ended, asked, rfl, rfl⟩
  · refine Program.ensures_call_bind (fun last => ?_) fun _ => Program.ensures_done ?_
    · exact .interrupted how (.error last)
    · exact .interrupted how (.ok ())
  · refine Program.ensures_call_bind (fun last => ?_) fun _ => Program.ensures_done ?_
    · rw [List.cons_append, List.append_assoc]
      exact .asked ended (.error last) asked
    · rw [List.cons_append, List.append_assoc]
      exact .asked ended (.ok ()) asked

/-- How the panel reports the outcome. -/
inductive Reported : Outcome (TextToSql.Result V) → Trace (Widget V) V → Outcome Unit → Prop where
  | passed {how : Interrupt Failure} (control : rejection how = none) : Reported (.error how) [] (.error how)
  | rejected {how : Interrupt Failure} {text : String} (caught : rejection how = some text)
      (shown : Outcome Unit) : Reported (.error how) [⟨.display (.error text), shown⟩] shown
  | unwritten (result : TextToSql.Result V) (how : Interrupt Failure) :
      Reported (.ok result) [⟨.display (.write result.answer), .error how⟩] (.error how)
  | answered (result : TextToSql.Result V) (shown : Outcome Unit) : Reported (.ok result)
      [⟨.display (.write result.answer), .ok ()⟩, ⟨.display (.records result.rows), shown⟩] shown

theorem askQuestion_reported : (askQuestion lib dsn question).Ensures fun trace result =>
    ∃ attempt outcome shown, Attempted lib dsn question attempt outcome ∧ Reported outcome shown result ∧
      trace = attempt ++ shown := by
  have mapped : (some <$> attemptQuestion lib dsn question).Ensures fun trace result =>
      ∃ outcome, Attempted lib dsn question trace outcome ∧ result = outcome.map some := by
    refine attemptQuestion_attempted.bind ?_ ?_
    · exact fun first how attempted => ⟨_, attempted, rfl⟩
    · intro first value attempted
      refine Program.ensures_done ⟨.ok value, ?_, rfl⟩
      rw [List.append_nil]
      exact attempted
  have caught : ((some <$> attemptQuestion lib dsn question).handle fun exc => (rejection exc).map fun text => do
      emit (.error text)
      return none).Ensures fun trace result =>
      ∃ attempt outcome, Attempted lib dsn question attempt outcome ∧
        ((∃ value, outcome = .ok value ∧ trace = attempt ∧ result = .ok (some value)) ∨
          ∃ shown final, Reported outcome shown final ∧ trace = attempt ++ shown ∧
            result = final.map fun _ => none) := by
    refine mapped.handle ?_ ?_
    · rintro first value ⟨outcome, attempted, same⟩
      cases outcome with
      | ok own =>
        cases same
        exact ⟨first, _, attempted, .inl ⟨own, rfl, rfl, rfl⟩⟩
      | error how => cases same
    · rintro first how ⟨outcome, attempted, same⟩
      cases outcome with
      | ok own => cases same
      | error own =>
        cases same
        cases control : rejection how with
        | none =>
          refine Program.ensures_done ?_
          exact ⟨first, _, attempted, .inr ⟨[], .error how, .passed control, rfl, rfl⟩⟩
        | some text =>
          refine Program.ensures_call_bind (fun last => ?_) fun _ => Program.ensures_done ?_
          · exact ⟨first, _, attempted, .inr ⟨_, .error last, .rejected control (.error last), rfl, rfl⟩⟩
          · exact ⟨first, _, attempted, .inr ⟨_, .ok (), .rejected control (.ok ()), rfl, rfl⟩⟩
  refine caught.bind ?_ ?_
  · rintro first how ⟨attempt, outcome, attempted, ⟨value, -, -, ⟨⟩⟩ | ⟨shown, final, reported, rfl, same⟩⟩
    cases final with
    | ok _ => cases same
    | error own =>
      cases same
      exact ⟨attempt, outcome, shown, attempted, reported, rfl⟩
  · rintro first _ ⟨attempt, outcome, attempted, ⟨value, rfl, rfl, ⟨⟩⟩ | ⟨shown, final, reported, rfl, same⟩⟩
    · refine Program.ensures_call_bind (fun how => ?_) fun _ => ?_
      · exact ⟨first, _, _, attempted, .unwritten value how, rfl⟩
      · refine Program.ensures_call fun last => ?_
        exact ⟨first, _, _, attempted, .answered value last, rfl⟩
    · cases final with
      | error own => cases same
      | ok _ =>
        cases same
        refine Program.ensures_done ⟨attempt, outcome, shown, attempted, reported, ?_⟩
        rw [List.append_nil]

/-! ### The limits -/

/-- What the exchanges of a question keep to. -/
structure Kept (lib : Library V) (question : String) (trace : Trace (Widget V) V) : Prop where
  /-- Only what the check returns for the reply is executed. -/
  validated : ∀ statement answer, ⟨.execute statement, answer⟩ ∈ trace → ∃ raw sql,
    ⟨.complete question (some TextToSql.sqlSystemPrompt), .ok raw⟩ ∈ trace ∧ statement = .generated sql ∧
      executedSql lib.unicode lib.sqlparse (stripCodeFence raw.toList) 200 = .ok sql
  once : Program.occurrences Query.executes trace ≤ 1
  /-- The rows are explained, and a refused query is not. -/
  completions : Program.occurrences Query.completes trace ≤ 1 + Program.occurrences Query.executes trace
  left : Program.occurrences Query.leaves trace = opened trace
  /-- Only a question which was answered is committed. -/
  committed : ∀ answer, ⟨.leave false, answer⟩ ∈ trace → ∃ sql rows text,
    ⟨.fetchall (.generated sql), .ok rows⟩ ∈ trace ∧
      ⟨.complete (TextToSql.answerPrompt lib.dumpsRows question sql rows)
        (some TextToSql.answerSystemPrompt), .ok text⟩ ∈ trace

section Kept
variable {block first rest : Trace (Widget V) V} {result : Outcome (TextToSql.Result V)}

theorem opened_append (first rest : Trace (Widget V) V) : opened (first ++ rest) = opened first + opened rest :=
  List.countP_append

theorem opened_cons (exchange : Exchange (Query (Widget V) V) Query.Answer (Interrupt Failure))
    (rest : Trace (Widget V) V) : opened (exchange :: rest) =
      opened rest + if (exchange.query.connects && !failed exchange.answer) = true then 1 else 0 :=
  List.countP_cons

theorem asked_validated
    (asked : TextToSql.Asked lib.unicode lib.sqlparse lib.dumpsRows question 200 block result)
    {statement : Statement} {answer : Outcome Unit} (member : ⟨.execute statement, answer⟩ ∈ block) :
    ∃ raw sql, ⟨.complete question (some TextToSql.sqlSystemPrompt), .ok raw⟩ ∈ block ∧
      statement = .generated sql ∧
        executedSql lib.unicode lib.sqlparse (stripCodeFence raw.toList) 200 = .ok sql := by
  cases asked with
  | silent how =>
    cases member with
    | tail _ member => cases member
  | refused refused =>
    cases member with
    | tail _ member => cases member
  | @notExecuted raw sql how safe =>
    rcases member with _ | ⟨_, _ | ⟨_, member⟩⟩
    · exact ⟨raw, sql, List.mem_cons_self, rfl, safe⟩
    · cases member
  | @notFetched raw sql how safe =>
    rcases member with _ | ⟨_, _ | ⟨_, _ | ⟨_, member⟩⟩⟩
    · exact ⟨raw, sql, List.mem_cons_self, rfl, safe⟩
    · cases member
  | @explained raw sql rows text safe =>
    rcases member with _ | ⟨_, _ | ⟨_, _ | ⟨_, _ | ⟨_, member⟩⟩⟩⟩
    · exact ⟨raw, sql, List.mem_cons_self, rfl, safe⟩
    · cases member

/-- A statement is executed at most once, and the model asked again only behind it. -/
theorem asked_occurrences
    (asked : TextToSql.Asked lib.unicode lib.sqlparse lib.dumpsRows question 200 block result) :
    Program.occurrences Query.executes block ≤ 1 ∧
      Program.occurrences Query.completes block ≤ 1 + Program.occurrences Query.executes block ∧
        Program.occurrences Query.leaves block = 0 ∧ opened block = 0 := by
  cases asked <;> simp [Program.occurrences, opened, Query.executes, Query.completes, Query.leaves,
    Query.connects]

theorem asked_answered
    (asked : TextToSql.Asked lib.unicode lib.sqlparse lib.dumpsRows question 200 block result)
    (answered : failed result = false) : ∃ sql rows text, ⟨.fetchall (.generated sql), .ok rows⟩ ∈ block ∧
      ⟨.complete (TextToSql.answerPrompt lib.dumpsRows question sql rows)
        (some TextToSql.answerSystemPrompt), .ok text⟩ ∈ block := by
  cases asked with
  | silent => cases answered
  | refused => cases answered
  | notExecuted => cases answered
  | notFetched => cases answered
  | @explained raw sql rows text safe =>
    cases text with
    | error how => cases answered
    | ok text => exact ⟨sql, rows, text, .tail _ (.tail _ (.head _)), .tail _ (.tail _ (.tail _ (.head _)))⟩

/-- Only elements are displayed. -/
def Displays (trace : Trace (Widget V) V) : Prop := ∀ exchange ∈ trace, exchange.query.displays = true

theorem reported_displays {outcome : Outcome (TextToSql.Result V)} {final : Outcome Unit}
    (reported : Reported outcome rest final) : Displays rest := by
  cases reported <;> simp [Displays, Query.displays]

theorem displays_occurrences {counted : Query (Widget V) V → Bool}
    (others : ∀ query, counted query = true → query.displays = false) (displays : Displays rest) :
    Program.occurrences counted rest = 0 := by
  refine List.countP_eq_zero.mpr fun exchange member asked => ?_
  have shown := displays exchange member
  rw [others _ asked] at shown
  cases shown

theorem failed_disturbed {α : Type} {result : Outcome α} {ended : Outcome Unit}
    (fine : failed (disturbed result ended) = false) : failed result = false := by
  cases ended with
  | ok _ => exact fine
  | error how => cases fine

theorem kept_attempted {attempt : Trace (Widget V) V} {outcome : Outcome (TextToSql.Result V)}
    (attempted : Attempted lib dsn question attempt outcome) : Kept lib question attempt := by
  cases attempted with
  | unreachable how =>
    refine ⟨?_, by simp [Program.occurrences, Query.executes], ?_, ?_, ?_⟩
    · intro statement answer member
      rcases member with _ | ⟨_, member⟩
      cases member
    · simp [Program.occurrences, Query.executes, Query.completes]
    · simp [Program.occurrences, opened, failed, Query.leaves]
    · intro answer member
      rcases member with _ | ⟨_, member⟩
      cases member
  | interrupted how left =>
    refine ⟨?_, by simp [Program.occurrences, Query.executes], ?_, ?_, ?_⟩
    · intro statement answer member
      rcases member with _ | ⟨_, _ | ⟨_, _ | ⟨_, member⟩⟩⟩
      cases member
    · simp [Program.occurrences, Query.executes, Query.completes]
    · simp [Program.occurrences, opened, failed, Query.leaves, Query.connects]
    · intro answer member
      rcases member with _ | ⟨_, _ | ⟨_, _ | ⟨_, member⟩⟩⟩
      cases member
  | @asked block result ended left asked =>
    obtain ⟨once, completions, leaves, opens⟩ := asked_occurrences asked
    have inside {exchange : Exchange (Query (Widget V) V) Query.Answer (Interrupt Failure)}
        (member : exchange ∈ block) : exchange ∈ (⟨.connect dsn, .ok ()⟩ ::
          ⟨.display (.spinner "Generating and running SQL..."), .ok ()⟩ ::
            (block ++ [⟨.display .spinnerEnd, ended⟩, ⟨.leave (failed (disturbed result ended)), left⟩]) :
          Trace (Widget V) V) :=
      .tail _ (.tail _ (List.mem_append_left _ member))
    constructor
    · intro statement answer member
      rcases member with _ | ⟨_, _ | ⟨_, member⟩⟩
      rcases List.mem_append.mp member with within | last
      · obtain ⟨raw, sql, replied, safe⟩ := asked_validated asked within
        exact ⟨raw, sql, inside replied, safe⟩
      · rcases last with _ | ⟨_, _ | ⟨_, last⟩⟩
        cases last
    · simpa [Program.occurrences, Query.executes] using once
    · simpa [Program.occurrences, Query.executes, Query.completes] using completions
    · rw [Program.occurrences_cons, Program.occurrences_cons, Program.occurrences_append, leaves, opened_cons,
        opened_cons, opened_append, opens]
      rfl
    · intro answer member
      rcases member with _ | ⟨_, _ | ⟨_, member⟩⟩
      rcases List.mem_append.mp member with within | last
      · have none_left := List.countP_eq_zero.mp leaves _ within
        exact absurd rfl none_left
      · have fine : failed (disturbed result ended) = false := by
          rcases last with _ | ⟨_, last⟩
          rcases List.mem_singleton.mp last with same
          injection same with same
          injection same with same
          exact same.symm
        obtain ⟨sql, rows, text, fetched, explained⟩ := asked_answered asked (failed_disturbed fine)
        exact ⟨sql, rows, text, inside fetched, inside explained⟩

/-- An exchange which is no display lies in the part which is not only displays. -/
theorem mem_of_displays {before attempt shown : Trace (Widget V) V} (first : Displays before)
    (last : Displays shown) {query : Query (Widget V) V} {answer : Outcome query.Answer}
    (other : query.displays = false) (member : ⟨query, answer⟩ ∈ before ++ (attempt ++ shown)) :
    ⟨query, answer⟩ ∈ attempt := by
  rcases List.mem_append.mp member with early | member
  · exact absurd (first _ early) (by simp [other])
  · rcases List.mem_append.mp member with within | late
    · exact within
    · exact absurd (last _ late) (by simp [other])

theorem Kept.surround {before attempt shown : Trace (Widget V) V} (kept : Kept lib question attempt)
    (first : Displays before) (last : Displays shown) : Kept lib question (before ++ (attempt ++ shown)) := by
  have inside {exchange : Exchange (Query (Widget V) V) Query.Answer (Interrupt Failure)}
      (member : exchange ∈ attempt) : exchange ∈ before ++ (attempt ++ shown) :=
    List.mem_append_right _ (List.mem_append_left _ member)
  have same {counted : Query (Widget V) V → Bool}
      (others : ∀ query, counted query = true → query.displays = false) :
      Program.occurrences counted (before ++ (attempt ++ shown)) = Program.occurrences counted attempt := by
    rw [Program.occurrences_append, Program.occurrences_append, displays_occurrences others first,
      displays_occurrences others last, Nat.zero_add, Nat.add_zero]
  have connections : opened (before ++ (attempt ++ shown)) = opened attempt := by
    have none_opened {rest : Trace (Widget V) V} (displays : Displays rest) : opened rest = 0 := by
      refine List.countP_eq_zero.mpr fun exchange member => ?_
      have shown := displays exchange member
      cases exchange with
      | mk query answer => cases query <;> simp [Query.connects, Query.displays] at shown ⊢
    rw [opened_append, opened_append, none_opened first, none_opened last, Nat.zero_add, Nat.add_zero]
  have executes : ∀ query : Query (Widget V) V, query.executes = true → query.displays = false := by
    rintro (_ | _ | _ | _ | _ | _) <;> simp [Query.executes, Query.displays]
  have completes : ∀ query : Query (Widget V) V, query.completes = true → query.displays = false := by
    rintro (_ | _ | _ | _ | _ | _) <;> simp [Query.completes, Query.displays]
  have leaves : ∀ query : Query (Widget V) V, query.leaves = true → query.displays = false := by
    rintro (_ | _ | _ | _ | _ | _) <;> simp [Query.leaves, Query.displays]
  constructor
  · intro statement answer member
    obtain ⟨raw, sql, replied, safe⟩ := kept.validated _ _ (mem_of_displays first last rfl member)
    exact ⟨raw, sql, inside replied, safe⟩
  · rw [same executes]
    exact kept.once
  · rw [same completes, same executes]
    exact kept.completions
  · rw [same leaves, connections]
    exact kept.left
  · intro answer member
    obtain ⟨sql, rows, text, fetched, explained⟩ := kept.committed _ (mem_of_displays first last rfl member)
    exact ⟨sql, rows, text, inside fetched, inside explained⟩

theorem kept_nil : Kept lib question [] := by
  refine ⟨?_, Nat.zero_le 1, Nat.zero_le 1, rfl, ?_⟩
  · intro statement answer member
    cases member
  · intro answer member
    cases member

theorem Displays.kept (displays : Displays trace) : Kept lib question trace := by
  have kept : Kept lib question (trace ++ ([] ++ [])) :=
    kept_nil.surround displays fun _ member => absurd member List.not_mem_nil
  rwa [List.append_nil, List.append_nil] at kept

end Kept

/-! ### The panel -/

/-- The question is asked: a provider is configured, and the button was pressed
behind a text. -/
def Asks (provider : Option Provider) (input : Input) : Prop :=
  provider.isSome = true ∧ input.clicked "Ask" = true ∧ input.text questionLabel ≠ ""

/-- What is raised comes from the page. -/
def Contained (trace : Trace (Widget V) V) (result : Outcome Unit) : Prop :=
  ∀ failure, result = .error (.raised failure) →
    ∃ widget, ⟨.display widget, .error (.raised failure)⟩ ∈ trace

theorem rejection_eq_none {how : Interrupt Failure} (control : rejection how = none) (failure : Failure) :
    how ≠ .raised failure := by
  rintro rfl
  unfold rejection at control
  split at control
  · cases control
  · cases control
  next different => exact different failure rfl

theorem reported_contained {outcome : Outcome (TextToSql.Result V)} {shown : Trace (Widget V) V}
    {result : Outcome Unit} (reported : Reported outcome shown result) : Contained shown result := by
  intro failure raised
  cases reported with
  | passed control =>
    cases raised
    exact absurd rfl (rejection_eq_none control failure)
  | rejected caught shown =>
    subst raised
    exact ⟨_, List.mem_cons_self⟩
  | unwritten value how =>
    cases raised
    exact ⟨_, List.mem_cons_self⟩
  | answered value shown =>
    subst raised
    exact ⟨_, .tail _ (.head _)⟩

/-- A run which only displays, and ends as its last exchange does. -/
def Shown (trace : Trace (Widget V) V) (result : Outcome Unit) : Prop :=
  Displays trace ∧ Contained trace result

theorem shown_single (widget : Widget V) (answer : Outcome Unit) : Shown [⟨.display widget, answer⟩] answer := by
  constructor
  · intro exchange member
    rw [List.mem_singleton.mp member]
    rfl
  · intro failure raised
    subst raised
    exact ⟨widget, List.mem_singleton.mpr rfl⟩

theorem Shown.cons {result : Outcome Unit} (shown : Shown trace result) (widget : Widget V)
    (answer : Outcome Unit) : Shown (⟨.display widget, answer⟩ :: trace) result := by
  constructor
  · exact List.forall_mem_cons.mpr ⟨rfl, shown.1⟩
  · intro failure raised
    obtain ⟨other, member⟩ := shown.2 failure raised
    exact ⟨other, List.mem_cons_of_mem _ member⟩

theorem shown_nil : Shown ([] : Trace (Widget V) V) (.ok ()) :=
  ⟨fun _ member => absurd member List.not_mem_nil, nofun⟩

/-- The panel displays its parts and, where it is asked, attempts the question once. -/
theorem renderQaPanel_parts : (renderQaPanel lib provider dsn input).Ensures fun trace result =>
    Shown trace result ∨ Asks provider input ∧ ∃ before attempt outcome shown, Displays before ∧
      Attempted lib dsn (input.text questionLabel) attempt outcome ∧ Reported outcome shown result ∧
        trace = before ++ (attempt ++ shown) := by
  refine Program.ensures_call_bind (fun how => .inl (shown_single _ _)) fun _ => ?_
  split
  · exact Program.ensures_call fun answer => .inl ((shown_single _ _).cons _ _)
  next provided =>
  refine Program.ensures_call_bind (fun how => .inl ((shown_single _ _).cons _ _)) fun _ => ?_
  refine Program.ensures_call_bind (fun how => .inl (((shown_single _ _).cons _ _).cons _ _)) fun _ => ?_
  split
  · next asked =>
    have asks : Asks provider input := by
      simp only [Bool.and_eq_true, decide_eq_true_eq] at asked
      exact ⟨Option.isSome_iff_ne_none.mpr (by simpa using provided), asked.1, asked.2⟩
    refine askQuestion_reported.weaken fun rest final parts => ?_
    obtain ⟨attempt, outcome, shown, attempted, reported, rfl⟩ := parts
    refine .inr ⟨asks, [⟨.display _, .ok ()⟩, ⟨.display _, .ok ()⟩, ⟨.display _, .ok ()⟩], attempt, outcome,
      shown, ?_, attempted, reported, rfl⟩
    simp [Displays, Query.displays]
  · exact Program.ensures_done (.inl (((shown_nil.cons _ _).cons _ _).cons _ _))

theorem renderQaPanel_kept {result : Outcome Unit}
    (run : Program.Runs (renderQaPanel lib provider dsn input) trace result) :
    Kept lib (input.text questionLabel) trace := by
  rcases renderQaPanel_parts trace result run with
    shown | ⟨_, before, attempt, outcome, rest, first, attempted, reported, rfl⟩
  · exact shown.1.kept
  · exact (kept_attempted attempted).surround first (reported_displays reported)

theorem renderQaPanel_idle {result : Outcome Unit}
    (run : Program.Runs (renderQaPanel lib provider dsn input) trace result)
    (idle : ¬ Asks provider input) : Displays trace := by
  rcases renderQaPanel_parts trace result run with shown | ⟨asks, _⟩
  · exact shown.1
  · exact absurd asks idle

/-- In every run the panel keeps the limits of its question, lets no exception of
the model or the database pass, and asks for nothing unless it is asked. -/
theorem question_guarded {result : Outcome Unit}
    (run : Program.Runs (renderQaPanel lib provider dsn input) trace result) :
    Kept lib (input.text questionLabel) trace ∧ Contained trace result ∧
      (¬ Asks provider input → Displays trace) := by
  refine ⟨renderQaPanel_kept run, ?_, renderQaPanel_idle run⟩
  rcases renderQaPanel_parts trace result run with
    shown | ⟨_, before, attempt, outcome, rest, _, _, reported, rfl⟩
  · exact shown.2
  · intro failure raised
    obtain ⟨widget, member⟩ := reported_contained reported failure raised
    exact ⟨widget, List.mem_append_right _ (List.mem_append_right _ member)⟩

end Panel

/-! ### A question which is answered -/

def countLibrary : Library Int where
  unicode := .ascii
  sqlparse := .reading countStatement
  dumpsRows rows := toString rows.length
  dumpsFlags flags := toString flags.length
  dumpsStats stats := toString stats.totalTracked
  strFloat x := toString x
  haversineKm _ _ _ _ := 0

def countInput : Input := ⟨fun _ => "How many aircraft are there?", fun _ => true⟩

def countAnswers : (query : Query (Widget Int) Int) → Outcome query.Answer
  | .complete prompt _ =>
    if prompt = "How many aircraft are there?" then .ok "```sql\nSELECT COUNT(*) FROM flights\n```"
    else .ok "There are 41."
  | .fetchall (.generated _) => .ok [[("count", 41)]]
  | .fetchall (.currentFlights _) | .fetchall (.recentHistory _) => .ok []
  | .connect _ | .execute _ | .leave _ | .display _ => .ok ()

def countPanel : Script Int Unit :=
  renderQaPanel countLibrary (some (⟨.gemini, "key", "model"⟩, none)) "postgresql://" countInput

theorem question_guarded_count :
    Program.occurrences Query.executes (countPanel.play countAnswers).1 = 1 ∧
      Kept countLibrary "How many aircraft are there?" (countPanel.play countAnswers).1 ∧
      Contained (countPanel.play countAnswers).1 (countPanel.play countAnswers).2 ∧
      (¬ Asks (some (⟨.gemini, "key", "model"⟩, none)) countInput →
        Displays (countPanel.play countAnswers).1) :=
  ⟨by decide +kernel, question_guarded (Program.runs_play countAnswers countPanel)⟩

end Dashboard
end FlightHub
