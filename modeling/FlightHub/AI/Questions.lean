import FlightHub.AI.CodeFence
import FlightHub.Dashboard.Queries

/-! `answer_question` of `ai/text_to_sql.py`: what it asks of the model and of the
database, whatever they answer. `dumps` is `json.dumps(rows, default=str)`. -/
namespace FlightHub
open Python Interaction Streamlit Dashboard

namespace TextToSql

def schemaContext : String :=
  "Table flights (current snapshot, one row per aircraft, primary key icao24):\n" ++
  "  icao24 TEXT, callsign TEXT, origin_country TEXT,\n" ++
  "  longitude DOUBLE PRECISION, latitude DOUBLE PRECISION,\n" ++
  "  baro_altitude DOUBLE PRECISION, geo_altitude DOUBLE PRECISION (meters),\n" ++
  "  on_ground BOOLEAN, velocity DOUBLE PRECISION (m/s),\n" ++
  "  true_track DOUBLE PRECISION (degrees), vertical_rate DOUBLE PRECISION (m/s),\n" ++
  "  squawk TEXT, spi BOOLEAN, position_source INTEGER, category INTEGER,\n" ++
  "  time_position TIMESTAMPTZ, last_contact TIMESTAMPTZ,\n" ++
  "  weather_temperature_c DOUBLE PRECISION, weather_wind_speed_kmh DOUBLE PRECISION,\n" ++
  "  weather_wind_direction_deg DOUBLE PRECISION, weather_code INTEGER,\n" ++
  "  fetched_at TIMESTAMPTZ, updated_at TIMESTAMPTZ\n" ++
  "\n" ++
  "Table flight_history (append-only, one row per observation over time):\n" ++
  "  same columns as flights, plus a surrogate `id BIGSERIAL` primary key and\n" ++
  "  `recorded_at TIMESTAMPTZ` instead of `updated_at`; no primary key on icao24\n" ++
  "  (an aircraft has many rows over time).\n"

def sqlSystemPrompt : String :=
  "You translate natural-language questions into a single read-only PostgreSQL " ++
  "SELECT query against this schema:\n" ++
  "\n" ++
  s!"{schemaContext}\n" ++
  "\n" ++
  "Rules:\n" ++
  "- Output ONLY the SQL query. No markdown code fences, no explanation.\n" ++
  "- SELECT statements only. Never write, alter, or drop anything.\n" ++
  "- Prefer the `flights` table for \"currently\" / \"right now\" questions, and " ++
  "`flight_history` for questions about trends or changes over time.\n" ++
  "- Always include a LIMIT clause (200 or fewer) unless the question asks for " ++
  "an aggregate (COUNT, AVG, etc.) that returns a single row.\n"

def answerSystemPrompt : String :=
  "You answer a user's question about air traffic using only the given " ++
  "SQL query results (JSON rows). Be concise and factual. If the results " ++
  "are empty, say so plainly rather than guessing."

/-- `TextToSQLResult`. -/
structure Result (V : Type) where
  question : String
  sql : List Char
  rows : List (List (String × V))
  answer : String

section Functions
variable {E V : Type} (unicode : Unicode) (sqlparse : Sqlparse)
  (dumps : List (List (String × V)) → String)

def generateSql (question : String) : Action E V (List Char) := do
  let raw ← Action.complete question (some sqlSystemPrompt)
  return stripCodeFence raw.toList

def answerPrompt (question : String) (safeSql : List Char) (rows : List (List (String × V))) : String :=
  s!"Question: {question}\nSQL used: {String.ofList safeSql}\nResults (JSON): {dumps rows}"

/-- `_ensure_row_limit(validate_select_only(raw_sql), row_limit)`. -/
def safeSql (rawSql : List Char) (rowLimit : Int) : Action E V (List Char) :=
  match executedSql unicode sqlparse rawSql rowLimit with
  | .ok safeSql => pure safeSql
  | .error error => Action.raise (.sql error)

def answerQuestion (question : String) (rowLimit : Int := 200) : Action E V (Result V) := do
  let rawSql ← generateSql question
  let safeSql ← safeSql unicode sqlparse rawSql rowLimit
  Action.execute (.generated safeSql)
  let rows ← Action.fetchall (.generated safeSql)
  let answer ← Action.complete (answerPrompt dumps question safeSql rows) (some answerSystemPrompt)
  return ⟨question, safeSql, rows, answer⟩

end Functions

/-! ### The ways in which a question ends -/

section Asked
variable {E V : Type} {unicode : Unicode} {sqlparse : Sqlparse}
  {dumps : List (List (String × V)) → String} {question : String} {rowLimit : Int}
  {trace : Trace E V} {result : Outcome (Result V)}

/-- What a run asks, and how it ends. -/
inductive Asked (unicode : Unicode) (sqlparse : Sqlparse) (dumps : List (List (String × V)) → String)
    (question : String) (rowLimit : Int) : Trace E V → Outcome (Result V) → Prop where
  | silent (how : Interrupt Failure) : Asked unicode sqlparse dumps question rowLimit
      [⟨.complete question (some sqlSystemPrompt), .error how⟩] (.error how)
  | refused {raw : String} {error : SQLError}
      (unsafeSql : executedSql unicode sqlparse (stripCodeFence raw.toList) rowLimit = .error error) :
      Asked unicode sqlparse dumps question rowLimit
        [⟨.complete question (some sqlSystemPrompt), .ok raw⟩] (.error (.raised (.sql error)))
  | notExecuted {raw : String} {sql : List Char} (how : Interrupt Failure)
      (safe : executedSql unicode sqlparse (stripCodeFence raw.toList) rowLimit = .ok sql) :
      Asked unicode sqlparse dumps question rowLimit
        [⟨.complete question (some sqlSystemPrompt), .ok raw⟩, ⟨.execute (.generated sql), .error how⟩]
        (.error how)
  | notFetched {raw : String} {sql : List Char} (how : Interrupt Failure)
      (safe : executedSql unicode sqlparse (stripCodeFence raw.toList) rowLimit = .ok sql) :
      Asked unicode sqlparse dumps question rowLimit
        [⟨.complete question (some sqlSystemPrompt), .ok raw⟩, ⟨.execute (.generated sql), .ok ()⟩,
          ⟨.fetchall (.generated sql), .error how⟩] (.error how)
  | explained {raw : String} {sql : List Char} {rows : List (List (String × V))} (answer : Outcome String)
      (safe : executedSql unicode sqlparse (stripCodeFence raw.toList) rowLimit = .ok sql) :
      Asked unicode sqlparse dumps question rowLimit
        [⟨.complete question (some sqlSystemPrompt), .ok raw⟩, ⟨.execute (.generated sql), .ok ()⟩,
          ⟨.fetchall (.generated sql), .ok rows⟩,
          ⟨.complete (answerPrompt dumps question sql rows) (some answerSystemPrompt), answer⟩]
        (answer.map (⟨question, sql, rows, ·⟩))

/-- These are all of its runs. -/
theorem answerQuestion_asked : (answerQuestion (E := E) unicode sqlparse dumps question rowLimit).Ensures
    (Asked unicode sqlparse dumps question rowLimit) := by
  have generated : (generateSql (E := E) (V := V) question).Ensures fun trace result =>
      (∃ how, trace = [⟨.complete question (some sqlSystemPrompt), .error how⟩] ∧ result = .error how) ∨
      ∃ raw, trace = [⟨.complete question (some sqlSystemPrompt), .ok raw⟩] ∧
        result = .ok (stripCodeFence raw.toList) := by
    refine Program.ensures_call_bind (fun how => .inl ⟨how, rfl, rfl⟩) fun raw => ?_
    exact Program.ensures_done (.inr ⟨raw, rfl, rfl⟩)
  refine generated.bind ?_ ?_
  · rintro first how (⟨_, rfl, ⟨⟩⟩ | ⟨raw, -, ⟨⟩⟩)
    exact .silent how
  rintro first _ (⟨how, -, ⟨⟩⟩ | ⟨raw, rfl, ⟨⟩⟩)
  rw [safeSql]
  cases safe : executedSql unicode sqlparse (stripCodeFence raw.toList) rowLimit with
  | error error => exact Program.ensures_done (.refused safe)
  | ok sql =>
    refine Program.ensures_call_bind (fun how => .notExecuted how safe) fun _ => ?_
    refine Program.ensures_call_bind (fun how => .notFetched how safe) fun rows => ?_
    refine Program.ensures_call_bind (fun how => .explained (.error how) safe) fun answer => ?_
    exact Program.ensures_done (.explained (.ok answer) safe)

end Asked

end TextToSql
end FlightHub
