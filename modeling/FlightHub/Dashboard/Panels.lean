import FlightHub.AI.LLMProvider
import FlightHub.AI.Questions
import FlightHub.AI.Summary
import FlightHub.Dashboard.Flags
import FlightHub.Dashboard.LivePanel

/-! The panels behind the buttons, `_render_summary_panel`, `_render_anomalies_panel`
and `_render_qa_panel` of `dashboard/app.py`, by what they ask of the model, the
database and the page. The texts which `json.dumps` writes are parameters. -/
namespace FlightHub
open Python Interaction Streamlit Anomalies

namespace Dashboard

inductive Widget (V : Type) where
  | subheader (body : String)
  | info (body : String)
  | success (body : String)
  | error (body : String)
  | write (body : String)
  | textInput (label placeholder : String)
  | button (label : String)
  | spinner (text : String)
  | spinnerEnd
  | header (body : String)
  | divider
  | columns (count : Nat)
  | flags (flags : List AnomalyFlag)
  | records (rows : List (List (String × V)))
  /-- What the rest of the page shows. -/
  | elements (elements : List (Element Cell))

abbrev Script (V α : Type) := Action (Widget V) V α

/-- The packages, the texts of `json.dumps`, `str` of a float, and `_haversine_km`. -/
structure Library (V : Type) where
  unicode : Unicode
  sqlparse : Sqlparse
  dumpsRows : List (List (String × V)) → String
  dumpsFlags : List AnomalyFlag → String
  dumpsStats : Summary.Stats → String
  strFloat : ℚ → String
  haversineKm : ℚ → ℚ → ℚ → ℚ → ℚ

section Scripts
variable {V α : Type}

def emit (widget : Widget V) : Script V Unit := Action.display widget

def failed : Outcome α → Bool
  | .ok _ => false
  | .error _ => true

/-- `with psycopg.connect(dsn)`. -/
def withConnection (dsn : String) (body : Script V α) : Script V α :=
  Program.within (Action.connect dsn) (fun result => Action.leave (failed result)) body

/-- `with st.spinner(text)`. -/
def withSpinner (text : String) (body : Script V α) : Script V α :=
  Program.within (emit (.spinner text)) (fun _ => emit .spinnerEnd) body

def validated (result : Option α) : Script V α :=
  match result with
  | some value => pure value
  | none => Action.raise .validationError

def fetchFlights (dsn : String) : Script V (List EnrichedFlight) := do
  let rows ← withConnection dsn do
    Action.execute (.currentFlights currentSnapshotMaxAgeSeconds)
    Action.fetchall (.currentFlights currentSnapshotMaxAgeSeconds)
  validated (rows.mapM fun row => EnrichedFlight.modelValidate (flightsValues row))

def fetchHistory (dsn : String) (minutes : Int) : Script V (List (String × List EnrichedFlight)) := do
  let rows ← withConnection dsn do
    Action.execute (.recentHistory minutes)
    Action.fetchall (.recentHistory minutes)
  validated (groupHistory rows)

end Scripts

/-- The provider and its fallback, where a key is configured. -/
abbrev Provider := LLMProvider.Provider × Option LLMProvider.Provider

/-- `ValueError` is all that `get_llm_provider` raises. -/
def getProvider (settings : LLMProvider.Settings) : Option Provider :=
  (LLMProvider.getLlmProvider settings).toOption

def noProvider : String := "Set GEMINI_API_KEY or GROQ_API_KEY in .env to enable AI features."

section Panels
variable {V : Type} (lib : Library V) (provider : Option Provider) (dsn : String) (input : Input)

def generateSituationalSummary (flights : List EnrichedFlight) : Script V String :=
  if flights.isEmpty then pure "No aircraft are currently tracked in the monitored airspace."
  else
    Action.complete s!"Current statistics:\n{lib.dumpsStats (Summary.computeStats flights)}"
      (some Summary.systemPrompt)

def explainAnomalies (flags : List AnomalyFlag) : Script V String :=
  if flags.isEmpty then pure "No anomalies detected in the current snapshot."
  else Action.complete s!"Flagged anomalies:\n{lib.dumpsFlags flags}" (some explainSystemPrompt)

def renderSummaryPanel : Script V Unit := do
  emit (.subheader "AI situational summary")
  if provider.isNone then emit (.info noProvider)
  else
    emit (.button "Generate summary")
    if input.clicked "Generate summary" then
      let flights ← fetchFlights dsn
      let summary ← withSpinner "Asking the LLM..." (generateSituationalSummary lib flights)
      emit (.write summary)

def showFlags (flags : List AnomalyFlag) : Script V Unit := do
  emit (.flags flags)
  if provider.isSome then
    let explanation ← withSpinner "Asking the LLM to explain..." (explainAnomalies lib flags)
    emit (.write explanation)

def renderAnomaliesPanel : Script V Unit := do
  emit (.subheader "Anomaly detection")
  emit (.button "Detect anomalies")
  if input.clicked "Detect anomalies" then
    let flights ← fetchFlights dsn
    let history ← fetchHistory dsn historyLookbackMinutes
    let flags := panelFlags lib.haversineKm flights history
    if flags.isEmpty then emit (.success "No anomalies detected in the current snapshot.")
    else showFlags lib provider flags

def questionLabel : String := "Free-text question about current or recent air traffic"

/-- The body of the `try` statement. -/
def attemptQuestion (question : String) : Script V (TextToSql.Result V) :=
  withConnection dsn (withSpinner "Generating and running SQL..."
    (TextToSql.answerQuestion lib.unicode lib.sqlparse lib.dumpsRows question))

/-- Both handlers show an error and end the panel; `rerun` and `stop` pass them. -/
def rejection : Interrupt Failure → Option String
  | .raised (.sql (.safety exc)) => some s!"Generated query was rejected for safety: {exc.message}"
  | .raised _ => some "Something went wrong answering that question. Check the logs."
  | _ => none

def askQuestion (question : String) : Script V Unit := do
  let result ← ((some <$> attemptQuestion lib dsn question).handle fun exc =>
    (rejection exc).map fun text => do
      emit (.error text)
      return none)
  match result with
  | none => return
  | some result =>
    emit (.write result.answer)
    emit (.records result.rows)

def renderQaPanel : Script V Unit := do
  emit (.subheader "Ask a question")
  if provider.isNone then emit (.info noProvider)
  else
    emit (.textInput questionLabel "e.g. How many aircraft are currently below 1000 meters?")
    emit (.button "Ask")
    if input.clicked "Ask" && input.text questionLabel ≠ "" then
      askQuestion lib dsn (input.text questionLabel)

end Panels

end Dashboard
end FlightHub
