import FlightHub.AI.Sqlparse

/-! The check which a generated query passes before it is executed,
`ai/text_to_sql.py`. -/
namespace FlightHub
open Python

structure SQLSafetyError where
  message : String
deriving DecidableEq

/-- What `validate_select_only` raises: its own error, or the one of the package. -/
inductive SQLError where
  | safety (error : SQLSafetyError)
  | parse (error : SQLParseError)
deriving DecidableEq

def forbiddenKeywords : List String :=
  ["INSERT", "UPDATE", "DELETE", "DROP", "ALTER", "TRUNCATE", "CREATE", "GRANT", "REVOKE", "CALL",
    "MERGE", "COPY", "VACUUM", "EXECUTE", "INTO", "ATTACH", "REINDEX", "LISTEN", "NOTIFY", "SET",
    "PREPARE"]

def isForbiddenKeyword (word : List Char) : Bool := forbiddenKeywords.any (·.toList = word)

def forbiddenNames : List String :=
  ["pg_sleep", "pg_read_file", "pg_catalog", "information_schema", "dblink", "pg_terminate_backend"]

/-- `\b(pg_sleep|…)\b`, ignoring case. -/
def forbiddenPattern (unicode : Unicode) (before : Option Char) (text : List Char) : Bool :=
  unicode.boundary before text.head? &&
    forbiddenNames.any fun name =>
      (readLetters name.toList before text).any fun (last, rest) => unicode.boundary last rest.head?

/-- `\bLIMIT\s+\d+\b`, ignoring case. -/
def limitPattern (unicode : Unicode) (before : Option Char) (text : List Char) : Bool :=
  unicode.boundary before text.head? &&
    (readLetters "limit".toList before text).any fun (_, rest) =>
      let number := rest.dropWhile isSpace
      let digits := number.takeWhile unicode.isDecimal
      rest.head?.any isSpace && !digits.isEmpty &&
        unicode.boundary digits.getLast? (number.dropWhile unicode.isDecimal).head?

def Token.disallowed (token : Token) : Bool :=
  token.ttype ≠ .other && isForbiddenKeyword (upper token.value)

def validateSelectOnly (unicode : Unicode) (sqlparse : Sqlparse) (sql : List Char) :
    Except SQLError (List Char) :=
  let cleaned := strip sql
  if cleaned.isEmpty then .error (.safety ⟨"empty query"⟩)
  else
    match sqlparse.statements cleaned with
    | .error error => .error (.parse error)
    | .ok [stmt] =>
      if stmt.getType ≠ "SELECT" then
        .error (.safety ⟨"only SELECT statements are allowed, got: " ++ stmt.getType⟩)
      else
        match stmt.flatten.find? Token.disallowed with
        | some token =>
          .error (.safety ⟨"disallowed keyword in query: " ++ String.ofList (upper token.value)⟩)
        | none =>
          if search (forbiddenPattern unicode) none cleaned then
            .error (.safety ⟨"query references a disallowed function or catalog"⟩)
          else .ok (rstripWith (· = ';') (strip stmt.str))
    | .ok statements =>
      .error (.safety ⟨"exactly one SQL statement is required, got " ++ toString statements.length⟩)

def ensureRowLimit (unicode : Unicode) (sql : List Char) (maxRows : Int) : List Char :=
  if search (limitPattern unicode) none sql then sql
  else sql ++ " LIMIT ".toList ++ (toString maxRows).toList

/-- The text which `answer_question` executes for the generated `rawSql`. -/
def executedSql (unicode : Unicode) (sqlparse : Sqlparse) (rawSql : List Char) (rowLimit : Int := 200) :
    Except SQLError (List Char) := do
  let safeSql ← validateSelectOnly unicode sqlparse rawSql
  return ensureRowLimit unicode safeSql rowLimit

variable {unicode : Unicode} {sqlparse : Sqlparse} {sql safe : List Char} {stmt : ParsedStatement}

theorem flatten_blank {statements : List ParsedStatement}
    (blank : statements.filter (fun stmt => !(strip stmt.str).isEmpty) = []) :
    ∀ c ∈ statements.flatMap ParsedStatement.str, isSpace c = true := by
  intro c member
  obtain ⟨stmt, listed, within⟩ := List.mem_flatMap.mp member
  have empty := List.filter_eq_nil_iff.mp blank stmt listed
  exact strip_eq_nil_iff.mp (by simpa using empty) c within

/-- The blank statements around the only other one are removed with the blanks. -/
theorem Sqlparse.strip_statement (single : sqlparse.statements (strip sql) = .ok [stmt]) :
    strip stmt.str = strip sql := by
  cases parsed : sqlparse.parse (strip sql) with
  | error raised =>
    rw [Sqlparse.statements, parsed] at single
    cases single
  | ok statements =>
    rw [Sqlparse.statements, parsed] at single
    have single := Except.ok.inj single
    obtain ⟨before, after, rfl, none_before, -, none_after⟩ := List.filter_eq_cons_iff.mp single
    have none_before := List.filter_eq_nil_iff.mpr none_before
    calc strip stmt.str
        = strip (before.flatMap ParsedStatement.str ++
            (stmt.str ++ after.flatMap ParsedStatement.str)) := by
          rw [strip_blank_append (flatten_blank none_before),
            strip_append_blank (flatten_blank none_after)]
      _ = strip ((before ++ stmt :: after).flatMap ParsedStatement.str) := by
          rw [List.flatMap_append, List.flatMap_cons]
      _ = strip sql := by rw [sqlparse.lossless parsed, strip_strip]

theorem validateSelectOnly_ok_iff :
    validateSelectOnly unicode sqlparse sql = .ok safe ↔
      strip sql ≠ [] ∧ search (forbiddenPattern unicode) none (strip sql) = false ∧
        safe = rstripWith (· = ';') (strip sql) ∧
        ∃ stmt, sqlparse.statements (strip sql) = .ok [stmt] ∧ stmt.getType = "SELECT" ∧
          ∀ token ∈ stmt.flatten, token.disallowed = false := by
  unfold validateSelectOnly
  constructor
  · intro accepted
    dsimp only at accepted
    split at accepted
    · cases accepted
    next nonempty =>
    split at accepted
    · cases accepted
    next stmt single =>
      split at accepted
      · cases accepted
      next select =>
      split at accepted
      · cases accepted
      next allowed =>
      split at accepted
      · cases accepted
      next harmless =>
      cases accepted
      refine ⟨by simpa using nonempty, Bool.eq_false_iff.mpr harmless, ?_, stmt, single, ?_, ?_⟩
      · rw [Sqlparse.strip_statement single]
      · exact Decidable.not_not.mp select
      · simpa using allowed
    · cases accepted
  · rintro ⟨nonempty, harmless, rfl, stmt, single, select, allowed⟩
    have allowed : stmt.flatten.find? Token.disallowed = none := by simpa using allowed
    simp [nonempty, single, select, allowed, harmless, Sqlparse.strip_statement single]

end FlightHub
