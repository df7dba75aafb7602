import FlightHub.Dashboard.Gate
import FlightHub.Dashboard.Question
import FlightHub.Interaction.Monitor

/-! The whole script, `main` of `dashboard/app.py`, by what it asks of its
surroundings: how often a run asks the model, and how it uses its connections. -/
namespace FlightHub
open Python Interaction Streamlit

namespace Dashboard

def Fault.failure : Fault → Failure
  | .python exception => .python exception
  | .operationalError => .operationalError
  | .fragmentHandled => .fragmentHandled

def interruptOf : Interrupt Fault → Interrupt Failure
  | .raised fault => .raised fault.failure
  | .stop => .stop
  | .rerun => .rerun

section Script
variable {V : Type}

/-- A part which asks for nothing but to be shown. -/
def ofPage {α : Type} (session : Session) (page : Page α) : Script V α := do
  let (result, screen) := page.run ⟨session, []⟩
  emit (.elements screen.elements)
  .done (result.mapError interruptOf)

variable (lib : Library V) (settings : Settings) (ai : LLMProvider.Settings)

def showFault (own : Fault) : Script V Unit := do
  emit (.elements [.exception])
  .done (.error (.raised own.failure))

/-- `@st.fragment`, as of a page. -/
def wrapper (own : Option Fault) : Interrupt Failure → Option (Script V Unit)
  | .raised _ => own.map showFault
  | _ => none

/-- `_live_panel`, which its fragment runs again on a timer. -/
def liveFragment (own : Option Fault) (session : Session) (now : Datetime) : Script V Unit :=
  Program.handle (do
    let flights ← fetchFlights settings.postgresDsn
    ofPage session (livePanel settings now (.ok flights))) (wrapper own)

def vendorName : LLMProvider.Vendor → String
  | .gemini => "gemini"
  | .groq => "groq"

def sidebar : Script V Unit := do
  emit (.header "Configuration")
  emit (.write s!"**LLM provider:** {vendorName ai.llmProvider}")
  emit (.write ("AI features: " ++
    if (getProvider ai).isSome then "enabled" else "disabled (no API key)"))
  emit (.write (s!"**Bounding box:** ({lib.strFloat settings.openskyLamin}, " ++
    s!"{lib.strFloat settings.openskyLomin}) - " ++
    s!"({lib.strFloat settings.openskyLamax}, {lib.strFloat settings.openskyLomax})"))

def panels (input : Input) : Script V Unit := do
  emit .divider
  emit (.columns 2)
  renderSummaryPanel lib (getProvider ai) settings.postgresDsn input
  renderAnomaliesPanel lib (getProvider ai) settings.postgresDsn input
  emit .divider
  renderQaPanel lib (getProvider ai) settings.postgresDsn input

def showOutage : Script V Unit := do
  emit (.error unreachable)
  .done (.error .stop)

/-- `except psycopg.OperationalError`. -/
def outage : Interrupt Failure → Option (Script V Unit)
  | .raised .operationalError => some showOutage
  | _ => none

/-- `main` behind the gate. -/
def application (session : Session) (visit : Visit) : Script V Unit := do
  emit (.elements [.title "✈️ Real-Time Flight Data Integration Hub"])
  sidebar lib settings ai
  (liveFragment settings visit.fragmentFault session visit.now).handle outage
  panels lib settings ai visit.input

/-- Of a visit the widgets, the time and the fragment's wrapper count. -/
def script (session : Session) (visit : Visit) : Script V Unit := do
  emit (.elements [pageConfig])
  let passed ← ofPage session (requirePassword settings visit.input)
  if passed then application lib settings ai session visit else .done (.error .stop)

end Script

/-! ### Completions -/

section Completions
variable {V α : Type} {lib : Library V} {settings : Settings} {ai : LLMProvider.Settings}
  {provider : Option Provider} {dsn : String} {input : Input} {session : Session}

/-- A program which asks the model at most so often. -/
abbrev Asking (n : Nat) (program : Script V α) : Prop := program.AtMost Query.completes n

variable {n : Nat} {program body : Script V α}

theorem asking_emit (widget : Widget V) : Asking 0 (emit widget) := Program.atMost_call _

theorem asking_done (result : Outcome α) : Asking n (.done result : Script V α) := Program.atMost_done _ n

/-- What does not ask adds nothing to the rest. -/
theorem Asking.after {β : Type} {next : α → Script V β} (first : Asking 0 program)
    (second : ∀ value, Asking n (next value)) : Asking n (program >>= next) := by
  have both := Program.AtMost.bind first second
  rwa [Nat.zero_add] at both

theorem Asking.before {β : Type} {next : α → Script V β} (first : Asking n program)
    (second : ∀ value, Asking 0 (next value)) : Asking n (program >>= next) :=
  Program.AtMost.bind first second

theorem Asking.withConnection (bounded : Asking n body) (dsn : String) :
    Asking n (Dashboard.withConnection dsn body) := by
  refine Program.AtMost.mono (Program.AtMost.within (Program.atMost_call _) bounded
    fun result => Program.atMost_call _) ?_
  simp [Query.completes]

theorem Asking.withSpinner (bounded : Asking n body) (text : String) :
    Asking n (Dashboard.withSpinner text body) := by
  refine Program.AtMost.mono (Program.AtMost.within (Program.atMost_call _) bounded
    fun result => Program.atMost_call _) ?_
  simp [Query.completes]

theorem asking_validated (result : Option α) : Asking 0 (validated result : Script V α) := by
  cases result with
  | none => exact asking_done _
  | some value => exact asking_done _

theorem asking_fetchFlights (dsn : String) : Asking 0 (fetchFlights dsn : Script V _) := by
  refine Asking.after (Asking.withConnection ?_ dsn) fun rows => asking_validated _
  exact Asking.after (Program.atMost_call _) fun _ => Program.atMost_call _

theorem asking_fetchHistory (dsn : String) (minutes : Int) :
    Asking 0 (fetchHistory dsn minutes : Script V _) := by
  refine Asking.after (Asking.withConnection ?_ dsn) fun rows => asking_validated _
  exact Asking.after (Program.atMost_call _) fun _ => Program.atMost_call _

theorem asking_ofPage (session : Session) (page : Page α) : Asking 0 (ofPage session page : Script V α) :=
  Asking.after (asking_emit _) fun _ => asking_done _

theorem asking_summary (flights : List EnrichedFlight) :
    Asking 1 (generateSituationalSummary lib flights) := by
  unfold generateSituationalSummary
  split
  · exact asking_done _
  · exact Program.atMost_call _

theorem asking_explanation (flags : List Anomalies.AnomalyFlag) : Asking 1 (explainAnomalies lib flags) := by
  unfold explainAnomalies
  split
  · exact asking_done _
  · exact Program.atMost_call _

theorem asking_summaryPanel (lib : Library V) (provider : Option Provider) (dsn : String) (input : Input) :
    Asking (if provider.isSome && input.clicked "Generate summary" then 1 else 0)
      (renderSummaryPanel lib provider dsn input) := by
  refine Asking.after (asking_emit _) fun _ => ?_
  cases provider with
  | none => exact Program.AtMost.mono (asking_emit _) (Nat.zero_le _)
  | some provider =>
    refine Asking.after (asking_emit _) fun _ => ?_
    cases pressed : input.clicked "Generate summary" with
    | false => exact asking_done _
    | true =>
      refine Asking.after (asking_fetchFlights dsn) fun flights => ?_
      exact Asking.before ((asking_summary flights).withSpinner _) fun _ => asking_emit _

theorem asking_anomaliesPanel (lib : Library V) (provider : Option Provider) (dsn : String) (input : Input) :
    Asking (if provider.isSome && input.clicked "Detect anomalies" then 1 else 0)
      (renderAnomaliesPanel lib provider dsn input) := by
  refine Asking.after (asking_emit _) fun _ => Asking.after (asking_emit _) fun _ => ?_
  cases pressed : input.clicked "Detect anomalies" with
  | false => exact asking_done _
  | true =>
    refine Asking.after (asking_fetchFlights dsn) fun flights => ?_
    refine Asking.after (asking_fetchHistory dsn _) fun history => ?_
    dsimp only
    by_cases empty : (panelFlags lib.haversineKm flights history).isEmpty = true
    · rw [if_pos empty]
      exact Program.AtMost.mono (asking_emit _) (Nat.zero_le _)
    · rw [if_neg empty]
      refine Asking.after (asking_emit _) fun _ => ?_
      cases provider with
      | none => exact asking_done _
      | some provider =>
        exact Asking.before ((asking_explanation _).withSpinner _) fun _ => asking_emit _

instance (provider : Option Provider) (input : Input) : Decidable (Asks provider input) :=
  inferInstanceAs (Decidable (_ ∧ _ ∧ _))

theorem asking_qaPanel (lib : Library V) (provider : Option Provider) (dsn : String) (input : Input) :
    Asking (if Asks provider input then 2 else 0) (renderQaPanel lib provider dsn input) := by
  intro trace result run
  have kept := renderQaPanel_kept run
  split
  · have once := kept.once
    have completions := kept.completions
    omega
  · next idle =>
    refine le_of_eq (displays_occurrences ?_ (renderQaPanel_idle run idle))
    rintro (_ | _ | _ | _ | _ | _) <;> simp [Query.completes, Query.displays]

/-- What the widgets of a run allow: one completion for each of the two buttons,
and two for a question. -/
def allowance (provider : Option Provider) (input : Input) : Nat :=
  (if provider.isSome && input.clicked "Generate summary" then 1 else 0) +
    ((if provider.isSome && input.clicked "Detect anomalies" then 1 else 0) +
      if Asks provider input then 2 else 0)

theorem asking_panels (lib : Library V) (settings : Settings) (ai : LLMProvider.Settings) (input : Input) :
    Asking (allowance (getProvider ai) input) (panels lib settings ai input) := by
  refine Asking.after (asking_emit _) fun _ => Asking.after (asking_emit _) fun _ => ?_
  refine Program.AtMost.bind (asking_summaryPanel lib _ _ input) fun _ => ?_
  refine Program.AtMost.bind (asking_anomaliesPanel lib _ _ input) fun _ => ?_
  exact Asking.after (asking_emit _) fun _ => asking_qaPanel lib _ _ input

/-- A handler which does not ask adds nothing either. -/
theorem Asking.handle {handler : Interrupt Failure → Option (Script V α)} (first : Asking 0 program)
    (second : ∀ how handled, handler how = some handled → Asking 0 handled) :
    Asking 0 (program.handle handler) := by
  have both : Asking (0 + 0) (program.handle handler) := Program.AtMost.handle first second
  exact both

theorem wrapper_handled {own : Option Fault} {how : Interrupt Failure} {handled : Script V Unit}
    (chosen : wrapper own how = some handled) : ∃ fault, handled = showFault fault := by
  cases how with
  | raised failure =>
    obtain ⟨fault, -, rfl⟩ := Option.map_eq_some_iff.mp chosen
    exact ⟨fault, rfl⟩
  | stop => cases chosen
  | rerun => cases chosen

theorem asking_liveFragment (settings : Settings) (own : Option Fault) (session : Session) (now : Datetime) :
    Asking 0 (liveFragment settings own session now : Script V Unit) := by
  have panel : Asking 0 (fetchFlights settings.postgresDsn >>= fun flights =>
      ofPage session (livePanel settings now (.ok flights)) : Script V Unit) :=
    Asking.after (asking_fetchFlights _) fun _ => asking_ofPage _ _
  refine panel.handle fun how handled chosen => ?_
  obtain ⟨fault, rfl⟩ := wrapper_handled chosen
  exact Asking.after (asking_emit _) fun _ => asking_done _

theorem asking_sidebar (lib : Library V) (settings : Settings) (ai : LLMProvider.Settings) :
    Asking 0 (sidebar lib settings ai) :=
  Asking.after (asking_emit _) fun _ => Asking.after (asking_emit _) fun _ =>
    Asking.after (asking_emit _) fun _ => asking_emit _

theorem outage_handled {how : Interrupt Failure} {handled : Script V Unit} (chosen : outage how = some handled) :
    handled = showOutage := by
  unfold outage at chosen
  split at chosen
  · exact (Option.some.inj chosen).symm
  · cases chosen

theorem asking_application (lib : Library V) (settings : Settings) (ai : LLMProvider.Settings)
    (session : Session) (visit : Visit) :
    Asking (allowance (getProvider ai) visit.input) (application lib settings ai session visit) := by
  refine Asking.after (asking_emit _) fun _ => Asking.after (asking_sidebar lib settings ai) fun _ => ?_
  refine Asking.after ?_ fun _ => asking_panels lib settings ai visit.input
  refine (asking_liveFragment settings _ session visit.now).handle fun how handled chosen => ?_
  obtain rfl := outage_handled chosen
  exact Asking.after (asking_emit _) fun _ => asking_done _

theorem asking_script (lib : Library V) (settings : Settings) (ai : LLMProvider.Settings)
    (session : Session) (visit : Visit) :
    Asking (allowance (getProvider ai) visit.input) (script lib settings ai session visit) := by
  refine Asking.after (asking_emit _) fun _ => Asking.after (asking_ofPage _ _) fun passed => ?_
  cases passed with
  | true => exact asking_application lib settings ai session visit
  | false => exact asking_done _

end Completions

/-! ### Connections -/

/-- A connection before its statement, and from then on. -/
inductive Link where
  | closed
  | ready
  | used

/-- A connection carries one statement, whose rows are read, and none is opened beside
it. -/
def connections {E V : Type} : Monitor Link (Query E V) Query.Answer (Interrupt Failure) :=
  fun link exchange => match exchange.query, link with
    | .connect _, .closed => some (if failed exchange.answer then .closed else .ready)
    | .execute _, .ready => some .used
    | .fetchall _, .used => some .used
    | .leave _, .ready => some .closed
    | .leave _, .used => some .closed
    | .complete _ _, link => some link
    | .display _, link => some link
    | _, _ => none

section Connections
variable {V α : Type} {lib : Library V} {link : Link} {program body : Script V α}

/-- The program uses connections as the monitor allows, and ends as it began. -/
def Keeps (link : Link) (program : Script V α) : Prop :=
  Program.Follows connections link program fun _ ended => ended = link

/-- The body of a connection, which it leaves open. -/
def Uses (program : Script V α) : Prop :=
  Program.Follows connections .ready program fun _ ended => ended ≠ .closed

theorem keeps_done (result : Outcome α) : Keeps link (.done result : Script V α) := Program.follows_done rfl

theorem keeps_emit (widget : Widget V) : Keeps link (emit widget) :=
  Program.follows_call fun _ => ⟨link, by cases link <;> rfl, rfl⟩

theorem keeps_complete (prompt : String) (system : Option String) :
    Keeps link (Action.complete prompt system : Script V String) :=
  Program.follows_call fun _ => ⟨link, by cases link <;> rfl, rfl⟩

theorem keeps_fetchall (statement : Statement) : Keeps .used (Action.fetchall statement : Script V _) :=
  Program.follows_call fun _ => ⟨.used, rfl, rfl⟩

theorem Keeps.bind {β : Type} {next : α → Script V β} (first : Keeps link program)
    (second : ∀ value, Keeps link (next value)) : Keeps link (program >>= next) := by
  refine Program.Follows.bind first (fun _ _ same => same) fun value t same => ?_
  rw [same]
  exact second value

theorem Keeps.handle {handler : Interrupt Failure → Option (Script V α)} (first : Keeps link program)
    (second : ∀ how handled, handler how = some handled → Keeps link handled) :
    Keeps link (program.handle handler) := by
  refine Program.Follows.handle first (fun _ _ same => same) (fun _ _ same => same) ?_
  intro how handled t chosen same
  rw [same]
  exact second how handled chosen

/-- What comes before the statement. -/
theorem Keeps.uses {β : Type} {next : α → Script V β} (first : Keeps .ready program)
    (second : ∀ value, Uses (next value)) : Uses (program >>= next) := by
  refine Program.Follows.bind first (fun _ t same => ?_) fun value t same => ?_
  · rw [same]
    exact nofun
  · rw [same]
    exact second value

/-- The statement itself, and what comes after it. -/
theorem uses_execute (statement : Statement) {next : Unit → Script V α}
    (rest : ∀ value, Keeps .used (next value)) :
    Uses (Action.execute statement >>= next) := by
  have executed : Program.Follows connections .ready (Action.execute statement : Script V Unit)
      fun _ ended => ended = .used := Program.follows_call fun _ => ⟨.used, rfl, rfl⟩
  refine Program.Follows.bind executed (fun _ t same => ?_) fun value t same => ?_
  · rw [same]
    exact nofun
  · rw [same]
    refine Program.Follows.weaken (rest value) fun _ ended kept => ?_
    rw [kept]
    exact nofun

/-- A spinner changes nothing about the connection, and may be the first to raise. -/
theorem follows_withSpinner (post : Link → Prop) (begun : post link)
    (follows : Program.Follows connections link body fun _ ended => post ended) (text : String) :
    Program.Follows connections link (withSpinner text body) fun _ ended => post ended := by
  refine Program.Follows.within (Program.follows_call ?_) follows ?_
  · intro answer
    refine ⟨link, by cases link <;> rfl, ?_⟩
    cases answer with
    | ok value => rfl
    | error how => exact begun
  · intro result t held
    refine Program.follows_call fun answer => ⟨t, by cases t <;> rfl, ?_⟩
    cases answer with
    | ok value => exact held
    | error how => exact held

theorem Keeps.withSpinner (kept : Keeps link body) (text : String) : Keeps link (withSpinner text body) :=
  follows_withSpinner (· = link) rfl kept text

theorem Uses.withSpinner (used : Uses body) (text : String) : Uses (Dashboard.withSpinner text body) := by
  have begun : Link.ready ≠ .closed := nofun
  exact follows_withSpinner (· ≠ .closed) begun used text

/-- A connection is open within its block only. -/
theorem Uses.withConnection (used : Uses body) (dsn : String) :
    Keeps .closed (Dashboard.withConnection dsn body) := by
  refine Program.Follows.within (Program.follows_call ?_) used ?_
  · intro answer
    cases answer with
    | ok _ => exact ⟨.ready, rfl, rfl⟩
    | error how => exact ⟨.closed, rfl, rfl⟩
  · intro result t opened
    refine Program.follows_call fun answer => ⟨.closed, ?_, ?_⟩
    · cases t with
      | closed => exact absurd rfl opened
      | ready => rfl
      | used => rfl
    · cases answer with
      | ok value => rfl
      | error how => rfl

theorem keeps_validated (result : Option α) : Keeps link (validated result : Script V α) := by
  cases result with
  | none => exact keeps_done _
  | some value => exact keeps_done _

theorem keeps_fetchFlights (dsn : String) : Keeps .closed (fetchFlights dsn : Script V _) := by
  refine Keeps.bind (Uses.withConnection ?_ dsn) fun rows => keeps_validated _
  exact uses_execute _ fun _ => keeps_fetchall _

theorem keeps_fetchHistory (dsn : String) (minutes : Int) :
    Keeps .closed (fetchHistory dsn minutes : Script V _) := by
  refine Keeps.bind (Uses.withConnection ?_ dsn) fun rows => keeps_validated _
  exact uses_execute _ fun _ => keeps_fetchall _

theorem keeps_ofPage (session : Session) (page : Page α) : Keeps link (ofPage session page : Script V α) :=
  (keeps_emit _).bind fun _ => keeps_done _

theorem keeps_summary (flights : List EnrichedFlight) :
    Keeps link (generateSituationalSummary lib flights) := by
  unfold generateSituationalSummary
  split
  · exact keeps_done _
  · exact keeps_complete _ _

theorem keeps_explanation (flags : List Anomalies.AnomalyFlag) :
    Keeps link (explainAnomalies lib flags) := by
  unfold explainAnomalies
  split
  · exact keeps_done _
  · exact keeps_complete _ _

theorem uses_answerQuestion (question : String) :
    Uses (TextToSql.answerQuestion lib.unicode lib.sqlparse lib.dumpsRows question : Script V _) := by
  refine Keeps.uses ((keeps_complete _ _).bind fun _ => keeps_done _) fun rawSql => ?_
  refine Keeps.uses ?_ fun safeSql => ?_
  · unfold TextToSql.safeSql
    split
    · exact keeps_done _
    · exact keeps_done _
  · refine uses_execute _ fun _ => (keeps_fetchall _).bind fun rows => ?_
    exact (keeps_complete _ _).bind fun answer => keeps_done _

theorem keeps_summaryPanel (provider : Option Provider) (dsn : String) (input : Input) :
    Keeps .closed (renderSummaryPanel lib provider dsn input) := by
  refine (keeps_emit _).bind fun _ => ?_
  split
  · exact keeps_emit _
  · refine (keeps_emit _).bind fun _ => ?_
    split
    · refine (keeps_fetchFlights dsn).bind fun flights => ?_
      exact ((keeps_summary flights).withSpinner _).bind fun summary => keeps_emit _
    · exact keeps_done _

theorem keeps_anomaliesPanel (provider : Option Provider) (dsn : String) (input : Input) :
    Keeps .closed (renderAnomaliesPanel lib provider dsn input) := by
  refine (keeps_emit _).bind fun _ => (keeps_emit _).bind fun _ => ?_
  split
  · refine (keeps_fetchFlights dsn).bind fun flights => (keeps_fetchHistory dsn _).bind fun history => ?_
    dsimp only
    split
    · exact keeps_emit _
    · refine (keeps_emit _).bind fun _ => ?_
      split
      · exact ((keeps_explanation _).withSpinner _).bind fun explanation => keeps_emit _
      · exact keeps_done _
  · exact keeps_done _

theorem keeps_askQuestion (dsn question : String) : Keeps .closed (askQuestion lib dsn question) := by
  refine Keeps.bind (Keeps.handle ?_ fun how handled chosen => ?_) fun result => ?_
  · have attempt : Keeps .closed (attemptQuestion lib dsn question) :=
      Uses.withConnection ((uses_answerQuestion question).withSpinner _) dsn
    exact attempt.bind fun result => keeps_done _
  · obtain ⟨text, -, rfl⟩ := Option.map_eq_some_iff.mp chosen
    exact (keeps_emit _).bind fun _ => keeps_done _
  · cases result with
    | none => exact keeps_done _
    | some result => exact (keeps_emit _).bind fun _ => keeps_emit _

theorem keeps_qaPanel (provider : Option Provider) (dsn : String) (input : Input) :
    Keeps .closed (renderQaPanel lib provider dsn input) := by
  refine (keeps_emit _).bind fun _ => ?_
  split
  · exact keeps_emit _
  · refine (keeps_emit _).bind fun _ => (keeps_emit _).bind fun _ => ?_
    split
    · exact keeps_askQuestion dsn _
    · exact keeps_done _

theorem keeps_liveFragment (settings : Settings) (own : Option Fault) (session : Session) (now : Datetime) :
    Keeps .closed (liveFragment settings own session now : Script V Unit) := by
  refine Keeps.handle ((keeps_fetchFlights _).bind fun _ => keeps_ofPage _ _) fun how handled chosen => ?_
  obtain ⟨fault, rfl⟩ := wrapper_handled chosen
  exact (keeps_emit _).bind fun _ => keeps_done _

theorem keeps_script (lib : Library V) (settings : Settings) (ai : LLMProvider.Settings) (session : Session)
    (visit : Visit) : Keeps .closed (script lib settings ai session visit) := by
  refine (keeps_emit _).bind fun _ => (keeps_ofPage _ _).bind fun passed => ?_
  split
  · refine (keeps_emit _).bind fun _ => Keeps.bind ?_ fun _ => ?_
    · exact (keeps_emit _).bind fun _ => (keeps_emit _).bind fun _ => (keeps_emit _).bind fun _ => keeps_emit _
    refine Keeps.bind ((keeps_liveFragment settings _ session visit.now).handle ?_) fun _ => ?_
    · intro how handled chosen
      rw [outage_handled chosen]
      exact (keeps_emit _).bind fun _ => keeps_done _
    · refine (keeps_emit _).bind fun _ => (keeps_emit _).bind fun _ => ?_
      refine (keeps_summaryPanel _ _ visit.input).bind fun _ => ?_
      refine (keeps_anomaliesPanel _ _ visit.input).bind fun _ => ?_
      exact (keeps_emit _).bind fun _ => keeps_qaPanel _ _ visit.input
  · exact keeps_done _

end Connections

end Dashboard
end FlightHub
