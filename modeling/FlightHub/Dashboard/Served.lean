import FlightHub.Dashboard.Question

/-! The summary and anomalies panels over the tables of the consumer: what they
show and what they hand to the model is what is stored. The tables may change
between the two queries of the anomalies panel. -/
namespace FlightHub
open Python Interaction Streamlit Anomalies Transition

namespace Dashboard

/-- The tables which the queries read, and the times at which they do. -/
structure Served (K : Type) where
  collate : String → K
  snapshot : Database
  now : Int
  history : Database
  later : Int

section Served
variable {K V : Type} [LinearOrder K] {lib : Library V} {provider : Option Provider} {dsn : String}
  {input : Input} {trace first rest : Trace (Widget V) V}

def Served.currentRows (served : Served K) : List (Relational.Row FlightsColumn SqlValue) :=
  (served.snapshot.flights.filter (recent served.now)).insertionSort notBefore

def Served.historyRows (served : Served K) (minutes : Int) : List (Relational.Row HistoryColumn SqlValue) :=
  recentHistory served.collate served.later minutes served.history

/-- The database answers, from these tables; nothing is said of the model and the page. -/
def Served.Answers (served : Served K) :
    Exchange (Query (Widget V) V) Query.Answer (Interrupt Failure) → Prop
  | ⟨.connect _, answer⟩ | ⟨.execute _, answer⟩ | ⟨.leave _, answer⟩ => answer = .ok ()
  | ⟨.fetchall (.currentFlights _), answer⟩ => answer = .ok served.currentRows
  | ⟨.fetchall (.recentHistory minutes), answer⟩ => answer = .ok (served.historyRows minutes)
  | _ => True

def Served.Answering (served : Served K) (trace : Trace (Widget V) V) : Prop :=
  ∀ exchange ∈ trace, served.Answers exchange

/-- Exchanges which are neither shown nor handed to the model. -/
def Internal (trace : Trace (Widget V) V) : Prop :=
  ∀ exchange ∈ trace, exchange.query.displays = false ∧ exchange.query.completes = false

/-- A query is internal, and returns what the database answers. -/
theorem select_served (served : Served K) (dsn : String) (statement : Statement) :
    (withConnection dsn (do Action.execute statement; Action.fetchall statement) :
      Script V (List (statement.Row V))).Ensures fun trace result => Internal trace ∧
        (served.Answering trace → served.Answers (⟨.fetchall statement, result⟩ :
          Exchange (Query (Widget V) V) Query.Answer (Interrupt Failure))) := by
  refine Program.ensures_call_bind (fun how => ⟨?_, fun all => ?_⟩) fun _ => ?_
  · simp [Internal, Query.displays, Query.completes]
  · cases all _ List.mem_cons_self
  have body : (do Action.execute statement; Action.fetchall statement :
      Script V (List (statement.Row V))).Ensures fun trace result => Internal trace ∧
        (served.Answering trace → ⟨.fetchall statement, result⟩ ∈ trace) := by
    refine Program.ensures_call_bind (fun how => ⟨?_, fun all => ?_⟩) fun _ => ?_
    · simp [Internal, Query.displays, Query.completes]
    · cases all _ List.mem_cons_self
    · refine Program.ensures_call fun answer => ⟨?_, fun _ => .tail _ (.head _)⟩
      simp [Internal, Query.displays, Query.completes]
  refine body.andThen fun block result held => ?_
  obtain ⟨internal, fetched⟩ := held
  have whole (raised : Bool) (left : Outcome Unit) :
      Internal (⟨.connect dsn, .ok ()⟩ :: (block ++ [⟨.leave raised, left⟩]) : Trace (Widget V) V) := by
    refine List.forall_mem_cons.mpr ⟨⟨rfl, rfl⟩, ?_⟩
    refine List.forall_mem_append.mpr ⟨internal, ?_⟩
    exact List.forall_mem_singleton.mpr ⟨rfl, rfl⟩
  refine Program.ensures_call_bind (fun how => ⟨whole _ _, fun all => ?_⟩) fun _ =>
    Program.ensures_done ⟨whole _ _, fun all => ?_⟩
  · cases all _ (.tail _ (List.mem_append_right _ (.head _)))
  · refine all _ (.tail _ (List.mem_append_left _ (fetched fun exchange member => ?_)))
    exact all exchange (.tail _ (List.mem_append_left _ member))

/-! ### The two fetches -/

section Fetches
variable {served : Served K} {flights : List EnrichedFlight} {groups : List (String × List EnrichedFlight)}

theorem validated_eq {α : Type} (result : Option α) : (validated result : Script V α) =
    .done (result.elim (.error (.raised .validationError)) .ok) := by
  cases result <;> rfl

/-- A fetch is internal, and returns what the rows of the database are read as. -/
theorem validated_served {α : Type} (statement : Statement) (rows : List (statement.Row V)) {value : α}
    {read : List (statement.Row V) → Option α}
    (answered : ∀ result, served.Answers (⟨.fetchall statement, result⟩ :
      Exchange (Query (Widget V) V) Query.Answer (Interrupt Failure)) → result = .ok rows)
    (valid : read rows = some value) (dsn : String) :
    (withConnection dsn (do Action.execute statement; Action.fetchall statement) >>= fun rows =>
      validated (read rows) : Script V α).Ensures fun trace result => Internal trace ∧
        (served.Answering trace → result = .ok value) := by
  refine (select_served served dsn statement).bind ?_ ?_
  · rintro first how ⟨internal, returned⟩
    exact ⟨internal, fun all => nomatch (answered _ (returned all))⟩
  · rintro first fetched ⟨internal, returned⟩
    rw [validated_eq]
    refine Program.ensures_done ?_
    rw [List.append_nil]
    refine ⟨internal, fun all => ?_⟩
    have same : fetched = rows := Except.ok.inj (answered _ (returned all))
    rw [same, valid]
    rfl

theorem fetchFlights_served (current : fetchCurrentFlights served.now served.snapshot = some flights)
    (dsn : String) : (fetchFlights dsn : Script V _).Ensures fun trace result => Internal trace ∧
      (served.Answering trace → result = .ok flights) :=
  validated_served (.currentFlights _) served.currentRows (fun _ answer => answer) current dsn

theorem fetchHistory_served {minutes : Int}
    (grouped : groupHistory (recentHistory served.collate served.later minutes served.history) = some groups)
    (dsn : String) : (fetchHistory dsn minutes : Script V _).Ensures fun trace result => Internal trace ∧
      (served.Answering trace → result = .ok groups) :=
  validated_served (.recentHistory minutes) (served.historyRows minutes) (fun _ answer => answer)
    grouped dsn

/-- Past a fetch the database has answered it, or nothing is left to show. -/
theorem fetched_bind {α β : Type} {program : Script V α} {next : α → Script V β} {value : α}
    {post : Trace (Widget V) V → Outcome β → Prop}
    (fetched : program.Ensures fun trace result => Internal trace ∧
      (served.Answering trace → result = .ok value))
    (raised : ∀ first how, Internal first → post first (.error how))
    (unanswered : ∀ first rest result, ¬ served.Answering first → post (first ++ rest) result)
    (continued : ∀ first, Internal first →
      (next value).Ensures fun rest result => post (first ++ rest) result) :
    (program >>= next).Ensures post := by
  refine fetched.bind (fun first how held => raised first how held.1) ?_
  rintro first returned ⟨internal, answered⟩
  by_cases answering : served.Answering first
  · obtain rfl := Except.ok.inj (answered answering)
    exact continued first internal
  · exact fun rest result _ => unanswered first rest result answering

end Fetches

/-! ### What the panels show -/

/-- The table is that of the flags, and the model is asked about them, if there
are any; the page says that there are none otherwise. -/
def Tells (lib : Library V) (flags : List AnomalyFlag) : Query (Widget V) V → Prop
  | .display (.flags shown) => shown = flags ∧ flags ≠ []
  | .display (.success _) => flags = []
  | .complete prompt _ => prompt = s!"Flagged anomalies:\n{lib.dumpsFlags flags}" ∧ flags ≠ []
  | _ => True

def ShowsFlags (lib : Library V) (flags : List AnomalyFlag) (trace : Trace (Widget V) V) : Prop :=
  ∀ exchange ∈ trace, Tells lib flags exchange.query

/-- Which of the two it was. -/
def Settled (flags : List AnomalyFlag) (trace : Trace (Widget V) V) : Prop :=
  (flags = [] ∧ ⟨.display (.success "No anomalies detected in the current snapshot."), .ok ()⟩ ∈ trace) ∨
    (flags ≠ [] ∧ ⟨.display (.flags flags), .ok ()⟩ ∈ trace)

section Flags
variable {flags : List AnomalyFlag}

theorem Internal.shows (internal : Internal trace) : ShowsFlags lib flags trace := by
  intro exchange member
  obtain ⟨hidden, silent⟩ := internal exchange member
  cases exchange with
  | mk query answer =>
    cases query with
    | complete prompt system => cases silent
    | display widget => cases hidden
    | connect | execute | fetchall | leave => trivial

theorem Settled.prepend (settled : Settled flags rest) (first : Trace (Widget V) V) :
    Settled flags (first ++ rest) :=
  settled.imp (fun ⟨empty, shown⟩ => ⟨empty, List.mem_append_right first shown⟩)
    fun ⟨nonempty, shown⟩ => ⟨nonempty, List.mem_append_right first shown⟩

/-- The model is asked with the flags. -/
theorem explainAnomalies_shows (nonempty : flags ≠ []) (lib : Library V) :
    (explainAnomalies lib flags).Ensures fun trace _ => ShowsFlags lib flags trace := by
  have some : ¬ flags.isEmpty = true := by simpa using nonempty
  rw [explainAnomalies, if_neg some]
  exact Program.ensures_call fun answer => List.forall_mem_singleton.mpr ⟨rfl, nonempty⟩

theorem withSpinner_shows {α : Type} {body : Script V α}
    (shows : body.Ensures fun trace _ => ShowsFlags lib flags trace) (text : String) :
    (withSpinner text body).Ensures fun trace _ => ShowsFlags lib flags trace := by
  refine Program.ensures_call_bind (fun how => List.forall_mem_singleton.mpr trivial) fun _ => ?_
  refine shows.andThen fun block result held => ?_
  have whole (ended : Outcome Unit) : ShowsFlags lib flags
      (⟨.display (.spinner text), .ok ()⟩ :: (block ++ [⟨.display .spinnerEnd, ended⟩])) :=
    List.forall_mem_cons.mpr ⟨trivial, List.forall_mem_append.mpr ⟨held, List.forall_mem_singleton.mpr trivial⟩⟩
  exact Program.ensures_call_bind (fun how => whole _) fun _ => Program.ensures_done (whole _)

/-- The table, and the explanation behind it. -/
theorem showFlags_shows (nonempty : flags ≠ []) (lib : Library V) (provider : Option Provider) :
    (showFlags lib provider flags).Ensures fun trace result =>
      ShowsFlags lib flags trace ∧ (result = .ok () → Settled flags trace) := by
  refine Program.ensures_call_bind (fun how => ⟨List.forall_mem_singleton.mpr ⟨rfl, nonempty⟩, nofun⟩) fun _ => ?_
  have table {rest : Trace (Widget V) V} (shows : ShowsFlags lib flags rest) :
      ShowsFlags lib flags (⟨.display (.flags flags), .ok ()⟩ :: rest) :=
    List.forall_mem_cons.mpr ⟨⟨rfl, nonempty⟩, shows⟩
  have settled (rest : Trace (Widget V) V) : Settled flags (⟨.display (.flags flags), .ok ()⟩ :: rest) :=
    .inr ⟨nonempty, List.mem_cons_self⟩
  split
  · refine (withSpinner_shows (explainAnomalies_shows nonempty lib) _).bind ?_ ?_
    · exact fun block how shows => ⟨table shows, fun _ => settled _⟩
    · intro block explanation shows
      refine Program.ensures_call fun answer => ⟨table ?_, fun _ => settled _⟩
      exact List.forall_mem_append.mpr ⟨shows, List.forall_mem_singleton.mpr trivial⟩
  · exact Program.ensures_done ⟨table fun _ member => (nomatch member), fun _ => settled _⟩

end Flags

/-- Where the button is pressed and the database answers, the panel shows the flags
of its tables, and a run which returns has shown them. -/
theorem renderAnomaliesPanel_served {served : Served K} {flights : List EnrichedFlight}
    {groups : List (String × List EnrichedFlight)}
    (current : fetchCurrentFlights served.now served.snapshot = some flights)
    (grouped : groupHistory (recentHistory served.collate served.later historyLookbackMinutes served.history) =
      some groups)
    (pressed : input.clicked "Detect anomalies" = true) (lib : Library V) (provider : Option Provider)
    (dsn : String) : (renderAnomaliesPanel lib provider dsn input).Ensures fun trace result =>
      served.Answering trace → ShowsFlags lib (panelFlags lib.haversineKm flights groups) trace ∧
        (result = .ok () → Settled (panelFlags lib.haversineKm flights groups) trace) := by
  refine Program.ensures_call_bind (fun how _ => ⟨List.forall_mem_singleton.mpr trivial, nofun⟩) fun _ => ?_
  refine Program.ensures_call_bind (fun how _ => ⟨?_, nofun⟩) fun _ => ?_
  · exact List.forall_mem_cons.mpr ⟨trivial, List.forall_mem_singleton.mpr trivial⟩
  rw [if_pos pressed]
  have opening {trace : Trace (Widget V) V} (shows : ShowsFlags lib (panelFlags lib.haversineKm flights groups) trace) :
      ShowsFlags lib (panelFlags lib.haversineKm flights groups)
        (⟨.display (.subheader "Anomaly detection"), .ok ()⟩ :: ⟨.display (.button "Detect anomalies"), .ok ()⟩ ::
          trace) :=
    List.forall_mem_cons.mpr ⟨trivial, List.forall_mem_cons.mpr ⟨trivial, shows⟩⟩
  refine fetched_bind (fetchFlights_served current dsn) ?_ ?_ fun first internal => ?_
  · exact fun first how internal all => ⟨opening internal.shows, nofun⟩
  · refine fun first rest result lost all => absurd (fun exchange member => ?_) lost
    exact all exchange (.tail _ (.tail _ (List.mem_append_left _ member)))
  refine fetched_bind (fetchHistory_served grouped dsn) ?_ ?_ fun second later => ?_
  · refine fun second how later all => ⟨opening ?_, nofun⟩
    exact List.forall_mem_append.mpr ⟨internal.shows, later.shows⟩
  · refine fun second rest result lost all => absurd (fun exchange member => ?_) lost
    exact all exchange (.tail _ (.tail _ (List.mem_append_right _ (List.mem_append_left _ member))))
  dsimp only
  split
  · next empty =>
    have none : panelFlags lib.haversineKm flights groups = [] := List.isEmpty_iff.mp empty
    refine Program.ensures_call fun answer all => ⟨opening ?_, fun fine => .inl ⟨none, ?_⟩⟩
    · refine List.forall_mem_append.mpr ⟨internal.shows, List.forall_mem_append.mpr ⟨later.shows, ?_⟩⟩
      exact List.forall_mem_singleton.mpr none
    · rw [fine]
      refine .tail _ (.tail _ (List.mem_append_right _ (List.mem_append_right _ ?_)))
      exact List.mem_singleton.mpr rfl
  · next some =>
    have nonempty : panelFlags lib.haversineKm flights groups ≠ [] := by simpa using some
    refine (showFlags_shows nonempty lib provider).weaken fun rest final ⟨shows, settled⟩ all =>
      ⟨opening ?_, fun fine => ?_⟩
    · exact List.forall_mem_append.mpr ⟨internal.shows, List.forall_mem_append.mpr ⟨later.shows, shows⟩⟩
    · exact ((settled fine).prepend second |>.prepend first).prepend
        [⟨.display (.subheader "Anomaly detection"), .ok ()⟩, ⟨.display (.button "Detect anomalies"), .ok ()⟩]

/-! ### What the summary says -/

section Summary
variable {flights : List EnrichedFlight} {text : String}

/-- What may be said of the flights: what the model answered, unless there are none. -/
def Said (flights : List EnrichedFlight) (log : Trace (Widget V) V) (text : String) : Prop :=
  (flights = [] ∧ text = "No aircraft are currently tracked in the monitored airspace.") ∨
    ∃ prompt system, ⟨.complete prompt system, .ok text⟩ ∈ log

/-- The model is given the figures of these flights and nothing else. -/
def Grounded (lib : Library V) (flights : List EnrichedFlight) (log : Trace (Widget V) V) :
    Exchange (Query (Widget V) V) Query.Answer (Interrupt Failure) → Prop
  | ⟨.complete prompt system, _⟩ => flights ≠ [] ∧ system = some Summary.systemPrompt ∧
      prompt = s!"Current statistics:\n{lib.dumpsStats (Summary.computeStats flights)}"
  | ⟨.display (.write text), _⟩ => Said flights log text
  | _ => True

def Summarised (lib : Library V) (flights : List EnrichedFlight) (trace : Trace (Widget V) V) : Prop :=
  ∀ exchange ∈ trace, Grounded lib flights trace exchange

theorem Said.mono (said : Said flights first text) (within : first ⊆ trace) : Said flights trace text :=
  said.imp_right fun ⟨prompt, system, member⟩ => ⟨prompt, system, within member⟩

theorem Grounded.mono {exchange : Exchange (Query (Widget V) V) Query.Answer (Interrupt Failure)}
    (grounded : Grounded lib flights first exchange) (within : first ⊆ trace) :
    Grounded lib flights trace exchange := by
  obtain ⟨query, answer⟩ := exchange
  cases query with
  | complete prompt system => exact grounded
  | display widget =>
    cases widget with
    | write text => exact Said.mono grounded within
    | _ => trivial
  | connect | execute | fetchall | leave => trivial

theorem Summarised.append (before : Summarised lib flights first) (after : Summarised lib flights rest) :
    Summarised lib flights (first ++ rest) :=
  List.forall_mem_append.mpr
    ⟨fun exchange member => (before exchange member).mono (List.subset_append_left _ _),
      fun exchange member => (after exchange member).mono (List.subset_append_right _ _)⟩

theorem Internal.summarised (internal : Internal trace) : Summarised lib flights trace := by
  intro exchange member
  obtain ⟨hidden, silent⟩ := internal exchange member
  obtain ⟨query, answer⟩ := exchange
  cases query with
  | complete prompt system => cases silent
  | display widget => cases hidden
  | connect | execute | fetchall | leave => trivial

theorem generateSituationalSummary_said (lib : Library V) (flights : List EnrichedFlight) :
    (generateSituationalSummary lib flights).Ensures fun trace result =>
      Summarised lib flights trace ∧ ∀ text, result = .ok text → Said flights trace text := by
  unfold generateSituationalSummary
  split
  · next empty =>
    refine Program.ensures_done ⟨fun _ member => absurd member List.not_mem_nil, fun text same => ?_⟩
    exact .inl ⟨List.isEmpty_iff.mp empty, (Except.ok.inj same).symm⟩
  · next some =>
    have nonempty : flights ≠ [] := by simpa using some
    refine Program.ensures_call fun answer => ⟨List.forall_mem_singleton.mpr ⟨nonempty, rfl, rfl⟩, ?_⟩
    rintro text rfl
    exact .inr ⟨_, _, List.mem_singleton.mpr rfl⟩

/-- It answers as the function of the figures does, where the provider gives the replies. -/
theorem generateSituationalSummary_agrees (lib : Library V) (flights : List EnrichedFlight)
    {complete : String → Option String → Except Exception String}
    {answers : (query : Query (Widget V) V) → Outcome query.Answer}
    (replies : ∀ prompt system, answers (.complete prompt system) =
      (complete prompt system).mapError fun exc => .raised (.python exc)) :
    ((generateSituationalSummary lib flights).play answers).2 =
      (Summary.generateSituationalSummary lib.dumpsStats complete flights).mapError
        fun exc => .raised (.python exc) := by
  unfold generateSituationalSummary Summary.generateSituationalSummary
  split
  · rfl
  · exact replies _ _

theorem summarised_plain {widget : Widget V} {answer : Outcome Unit}
    (plain : ∀ log, Grounded lib flights log ⟨.display widget, answer⟩) :
    Summarised lib flights [⟨.display widget, answer⟩] :=
  List.forall_mem_singleton.mpr (plain _)

theorem spunSummary_said (lib : Library V) (flights : List EnrichedFlight) (label : String) :
    (withSpinner label (generateSituationalSummary lib flights)).Ensures fun trace result =>
      Summarised lib flights trace ∧ ∀ text, result = .ok text → Said flights trace text := by
  have started : Summarised lib flights [⟨.display (.spinner label), .ok ()⟩] := summarised_plain fun _ => trivial
  have ended (answer : Outcome Unit) : Summarised lib flights [⟨.display .spinnerEnd, answer⟩] :=
    summarised_plain fun _ => trivial
  refine Program.ensures_call_bind (fun how => ⟨summarised_plain fun _ => trivial, nofun⟩) fun _ => ?_
  refine (generateSituationalSummary_said lib flights).andThen fun block result held => ?_
  obtain ⟨grounded, said⟩ := held
  refine Program.ensures_call_bind (fun how => ⟨started.append (grounded.append (ended _)), nofun⟩) fun _ => ?_
  refine Program.ensures_done ⟨started.append (grounded.append (ended _)), fun text same => ?_⟩
  exact (said text same).mono fun _ member => .tail _ (List.mem_append_left _ member)

/-- The summary is asked for: a provider is configured, and the button was pressed. -/
def Wants (provider : Option Provider) (input : Input) : Prop :=
  provider.isSome = true ∧ input.clicked "Generate summary" = true

/-- A run which returns has written a text, if it was asked for one. -/
def Written (trace : Trace (Widget V) V) : Prop := ∃ text, ⟨.display (.write text), .ok ()⟩ ∈ trace

theorem renderSummaryPanel_served {served : Served K}
    (current : fetchCurrentFlights served.now served.snapshot = some flights) (lib : Library V)
    (provider : Option Provider) (dsn : String) (input : Input) :
    (renderSummaryPanel lib provider dsn input).Ensures fun trace result =>
      (served.Answering trace → Summarised lib flights trace ∧
        (Wants provider input → result = .ok () → Written trace)) ∧
        (¬ Wants provider input → Displays trace) := by
  have title (answer : Outcome Unit) :
      Summarised lib flights [⟨.display (.subheader "AI situational summary"), answer⟩] :=
    summarised_plain fun _ => trivial
  have button (answer : Outcome Unit) : Summarised lib flights [⟨.display (.button "Generate summary"), answer⟩] :=
    summarised_plain fun _ => trivial
  refine Program.ensures_call_bind (fun how => ?_) fun _ => ?_
  · exact ⟨fun _ => ⟨title _, fun _ => nofun⟩, fun _ => (shown_single _ _).1⟩
  split
  · next absent =>
    have unwanted : ¬ Wants provider input := fun wants => by
      simp [Option.isNone_iff_eq_none.mp absent, Wants] at wants
    refine Program.ensures_call fun answer => ⟨fun _ => ⟨?_, fun wants => absurd wants unwanted⟩, fun _ => ?_⟩
    · exact (title _).append (summarised_plain fun _ => trivial)
    · exact ((shown_single _ _).cons _ _).1
  next provided =>
  refine Program.ensures_call_bind (fun how => ?_) fun _ => ?_
  · exact ⟨fun _ => ⟨(title _).append (button _), fun _ => nofun⟩, fun _ => ((shown_single _ _).cons _ _).1⟩
  split
  swap
  · next idle =>
    have unwanted : ¬ Wants provider input := fun wants => idle wants.2
    refine Program.ensures_done ⟨fun _ => ⟨?_, fun wants => absurd wants unwanted⟩, fun _ => ?_⟩
    · exact (title _).append (button _)
    · exact ((shown_nil.cons _ _).cons _ _).1
  next clicked =>
  have wants : Wants provider input := ⟨by simpa [Option.isSome_iff_ne_none] using provided, clicked⟩
  refine fetched_bind (fetchFlights_served current dsn) ?_ ?_ fun first internal => ?_
  · refine fun first how internal => ⟨fun _ => ⟨?_, fun _ => nofun⟩, absurd wants⟩
    exact (title _).append ((button _).append internal.summarised)
  · refine fun first rest result lost => ⟨fun all => absurd (fun exchange member => ?_) lost, absurd wants⟩
    exact all exchange (.tail _ (.tail _ (List.mem_append_left _ member)))
  refine (spunSummary_said lib flights "Asking the LLM...").bind ?_ ?_
  · refine fun second how ⟨grounded, _⟩ => ⟨fun _ => ⟨?_, fun _ => nofun⟩, absurd wants⟩
    exact (title _).append ((button _).append (internal.summarised.append grounded))
  rintro second summary ⟨grounded, said⟩
  refine Program.ensures_call fun answer => ⟨fun _ => ⟨?_, fun _ fine => ⟨summary, ?_⟩⟩, absurd wants⟩
  · have reported : Summarised lib flights (second ++ [⟨.display (.write summary), answer⟩]) := by
      refine List.forall_mem_append.mpr ⟨fun exchange member => ?_, List.forall_mem_singleton.mpr ?_⟩
      · exact (grounded exchange member).mono (List.subset_append_left _ _)
      · exact (said summary rfl).mono (List.subset_append_left _ _)
    exact (title _).append ((button _).append (internal.summarised.append reported))
  · rw [fine]
    refine .tail _ (.tail _ (List.mem_append_right _ (List.mem_append_right _ ?_)))
    exact List.mem_singleton.mpr rfl

end Summary

end Served

/-! ### Tables which answer -/

section Answers
variable {K : Type} [LinearOrder K]

def Served.answers (served : Served K) : (query : Query (Widget Int) Int) → Outcome query.Answer
  | .fetchall (.currentFlights _) => .ok served.currentRows
  | .fetchall (.recentHistory minutes) => .ok (served.historyRows minutes)
  | query => countAnswers query

theorem Served.answering_play {α : Type} (served : Served K) (program : Script Int α) :
    served.Answering (program.play served.answers).1 := by
  intro exchange member
  obtain ⟨query, answer⟩ := exchange
  obtain rfl : answer = served.answers query := Program.answer_of_mem_play member
  cases query with
  | fetchall statement => cases statement <;> first | rfl | trivial
  | complete | display => trivial
  | connect | execute | leave => rfl

end Answers

end Dashboard

namespace Consumer
open Dashboard
variable {K V : Type} [LinearOrder K] {settings : Settings} {driver : Driver} {s t : State} {served : Served K}
  {input : Input}

/-- Whatever the consumer stores before and between its two queries, the panel
shows the flags of the stored flights and asks the model about these, whatever
the model and the page answer. -/
theorem anomalies_shown {ls ms : List Label} (run : Run (Steps (next settings driver)) (initial .empty) ls s)
    (meanwhile : Run (Steps (next settings driver)) s ms t)
    (injective : Function.Injective served.collate) (snapshot : served.snapshot = s.repository.session.committed)
    (history : served.history = t.repository.session.committed)
    (pressed : input.clicked "Detect anomalies" = true) (lib : Library V) (provider : Option Provider)
    (dsn : String) : ∃ flights flags, fetchCurrentFlights served.now served.snapshot = some flights ∧
      Flagged lib.haversineKm flights (t.repository.commits.map Repository.Commit.flight)
        (served.later - lookback historyLookbackMinutes) flags ∧
      ∀ trace result, Program.Runs (renderAnomaliesPanel lib provider dsn input) trace result →
        served.Answering trace → ShowsFlags lib flags trace ∧ (result = .ok () → Settled flags trace) := by
  obtain ⟨flights, groups, fetched, grouped, flagged⟩ := (run_tracked run).flagged
    (run_tracked (run.trans meanwhile)) served.collate injective lib.haversineKm served.now served.later
  rw [← snapshot] at fetched
  rw [← history] at grouped
  exact ⟨flights, _, fetched, flagged, renderAnomaliesPanel_served fetched grouped pressed lib provider dsn⟩

/-- Whatever the consumer has stored, the model is given the figures of the rows
of the snapshot, and what the panel writes is what the model answered. -/
theorem summary_grounded {ls : List Label} (run : Run (Steps (next settings driver)) (initial .empty) ls s)
    (snapshot : served.snapshot = s.repository.session.committed) (lib : Library V) (provider : Option Provider)
    (dsn : String) (input : Input) : ∃ flights,
      flights.map EnrichedFlight.modelDump = served.currentRows.map flightsValues ∧
      ∀ trace result, Program.Runs (renderSummaryPanel lib provider dsn input) trace result →
        (served.Answering trace → Summarised lib flights trace ∧
          (Wants provider input → result = .ok () → Written trace)) ∧
          (¬ Wants provider input → Displays trace) := by
  have tracked := run_tracked run
  obtain ⟨flights, fetched, -⟩ := exists_fetch tracked.stamped served.now
  refine ⟨flights, ?_, renderSummaryPanel_served (by rw [snapshot]; exact fetched) lib provider dsn input⟩
  rw [Served.currentRows, snapshot]
  exact fetchCurrentFlights_values tracked.stamped fetched

/-! ### An aircraft which descends at 20 m/s, and another which circles -/

def descent : FlightMessage :=
  { report "738065" 0 with state := { icao24 := "738065", originCountry := "Israel", verticalRate := some (-20) } }

def storedDescent : List Label := [
  .publish descent, .deliver, .start, .enrich 0 (some none), .store (.acquire 0),
  .store (.upsert 0 .accepted 1735400014000000), .store (.append 0 .accepted 1735400014000000),
  .store (.commit 0 .accepted)]

def turning (heading : ℚ) : FlightMessage :=
  { report "4ca7b3" 1 with
    state := {
      icao24 := "4ca7b3", originCountry := "Israel"
      latitude := some 32, longitude := some 35, trueTrack := some heading } }

def storedTurns : List Label := [
  .publish (turning 0), .publish (turning 90), .publish (turning 180), .publish (turning 270),
  .deliver, .deliver, .deliver, .deliver, .start, .start, .start, .start, .enrich 1 (some none),
  .enrich 2 (some none), .enrich 3 (some none), .enrich 4 (some none)] ++
  stored 1 ++ stored 2 ++ stored 3 ++ stored 4

/-- The queries read the tables of these states. -/
def servedBy (s t : State) : Served (List Char) where
  collate := String.toList
  snapshot := s.repository.session.committed
  now := 1735400015000000
  history := t.repository.session.committed
  later := 1735400022000000

def everyButton : Input := ⟨fun _ => "", fun _ => true⟩

def geminiProvider : Option Provider := some (⟨.gemini, "key", "model"⟩, none)

def sampleAnomalies : Script Int Unit :=
  renderAnomaliesPanel countLibrary geminiProvider "postgresql://" everyButton

def sampleSummary : Script Int Unit :=
  renderSummaryPanel countLibrary geminiProvider "postgresql://" everyButton

private def returns (panel : Script Int Unit) (s t : State) : Bool :=
  !failed (panel.play (servedBy s t).answers).2

private theorem ok_of_returns {panel : Script Int Unit} (returned : returns panel s t = true) :
    (panel.play (servedBy s t).answers).2 = .ok () := by
  unfold returns failed at returned
  split at returned
  · assumption
  · cases returned

private def descends (s : State) : Bool :=
  (fetchCurrentFlights 1735400015000000 s.repository.session.committed).any fun flights =>
    flights.any fun flight => flight.icao24 = "738065" && flight.verticalRate = some (-20)

/-- What is stored of the other aircraft within the window. -/
private def turns (t : State) : List EnrichedFlight :=
  (t.repository.commits.map Repository.Commit.flight).filter fun f =>
    f.icao24 = "4ca7b3" ∧ 1735400022000000 - lookback historyLookbackMinutes < f.fetchedAt.micros

private def circles (t : State) : Bool := (detectHoldingPattern (fun _ _ _ _ => 0) "4ca7b3" none (turns t)).isSome

private theorem holding_of_circles (circled : circles t = true) : Holding (fun _ _ _ _ => 0) (turns t) := by
  rcases detectHoldingPattern_spec (fun _ _ _ _ => 0) "4ca7b3" none (turns t) with ⟨holding, -⟩ | ⟨-, silent⟩
  · exact holding
  · rw [circles, silent] at circled
    cases circled

/-- The turns are stored between the two queries. -/
theorem anomalies_shown_descent : ∃ s t,
    Run (Steps (next {} fun _ => true)) (initial .empty) storedDescent s ∧
    Run (Steps (next {} fun _ => true)) s storedTurns t ∧ ∃ flights flags,
      Flagged (fun _ _ _ _ => 0) flights (t.repository.commits.map Repository.Commit.flight)
        (1735400022000000 - lookback historyLookbackMinutes) flags ∧
      ("738065", "rapid_vertical_rate") ∈ flags.map Anomalies.AnomalyFlag.subject ∧
      ("4ca7b3", "possible_holding_pattern") ∈ flags.map Anomalies.AnomalyFlag.subject ∧
      ShowsFlags countLibrary flags (sampleAnomalies.play (servedBy s t).answers).1 ∧
      Settled flags (sampleAnomalies.play (servedBy s t).answers).1 := by
  have passed : (replay (next {} fun _ => true) (initial .empty) storedDescent).any (fun s =>
      (replay (next {} fun _ => true) s storedTurns).any fun t =>
        descends s && circles t && returns sampleAnomalies s t) = true := by decide +kernel
  obtain ⟨s, first, passed⟩ := (Option.any_eq_true _ _).mp passed
  obtain ⟨t, second, passed⟩ := (Option.any_eq_true _ _).mp passed
  obtain ⟨found, returned⟩ := Bool.and_eq_true_iff.mp passed
  obtain ⟨falling, circled⟩ := Bool.and_eq_true_iff.mp found
  have run := run_of_replay first
  have meanwhile := run_of_replay second
  have injective : Function.Injective (servedBy s t).collate := fun _ _ => String.toList_inj.mp
  have pressed : everyButton.clicked "Detect anomalies" = true := rfl
  obtain ⟨flights, flags, fetched, flagged, panel⟩ := anomalies_shown run meanwhile injective rfl rfl pressed
    countLibrary geminiProvider "postgresql://"
  obtain ⟨shows, settled⟩ := panel _ _ (Program.runs_play (servedBy s t).answers sampleAnomalies)
    ((servedBy s t).answering_play sampleAnomalies)
  refine ⟨s, t, run, meanwhile, flights, flags, flagged, (flagged.rapid "738065").mpr ?_,
    (flagged.holding "4ca7b3").mpr (holding_of_circles circled), shows, settled (ok_of_returns returned)⟩
  change fetchCurrentFlights 1735400015000000 s.repository.session.committed = some flights at fetched
  simp only [descends, fetched, Option.any_some] at falling
  obtain ⟨flight, member, values⟩ := List.any_eq_true.mp falling
  simp only [Bool.and_eq_true, decide_eq_true_eq] at values
  exact ⟨flight, member, values.1, -20, values.2, by decide +kernel⟩

theorem summary_grounded_turns : ∃ s,
    Run (Steps (next {} fun _ => true)) (initial .empty) (storedDescent ++ storedTurns) s ∧
      Program.occurrences Query.completes (sampleSummary.play (servedBy s s).answers).1 = 1 ∧ ∃ flights,
      flights.map EnrichedFlight.modelDump = (servedBy s s).currentRows.map flightsValues ∧
      Summarised countLibrary flights (sampleSummary.play (servedBy s s).answers).1 ∧
      Written (sampleSummary.play (servedBy s s).answers).1 := by
  have passed : (replay (next {} fun _ => true) (initial .empty) (storedDescent ++ storedTurns)).any
      (fun s => returns sampleSummary s s &&
        Program.occurrences Query.completes (sampleSummary.play (servedBy s s).answers).1 == 1) = true := by
    decide +kernel
  obtain ⟨s, run, shown⟩ := run_of_test passed
  obtain ⟨returned, once⟩ := Bool.and_eq_true_iff.mp shown
  have wants : Wants geminiProvider everyButton := ⟨rfl, rfl⟩
  have snapshot : (servedBy s s).snapshot = s.repository.session.committed := rfl
  obtain ⟨flights, rows, panel⟩ := summary_grounded run snapshot countLibrary geminiProvider "postgresql://"
    everyButton
  obtain ⟨summarised, written⟩ := (panel _ _ (Program.runs_play (servedBy s s).answers sampleSummary)).1
    ((servedBy s s).answering_play sampleSummary)
  exact ⟨s, run, beq_iff_eq.mp once, flights, rows, summarised, written wants (ok_of_returns returned)⟩

end Consumer
end FlightHub
