import FlightHub.AI.TextToSql
import FlightHub.Postgres.Limit

/-! What `validate_select_only` guarantees of the text which PostgreSQL executes.
The check reads the text with `sqlparse` and the server with its own lexer. Up
to the character at which the two part the check sees what the server executes,
and what stands behind it goes unseen. -/
namespace FlightHub
open Python Postgres Lexical

/-- The text without the blanks around it and its final semicolons. -/
def query (sql : List Char) : List Char := rstripWith (· = ';') (strip sql)

/-! ### What `sqlparse` reads -/

/-- Behind these a word is a name or a placeholder for `sqlparse`. -/
def gluesNext (before : List Lexeme) : Bool :=
  (before.getLast?.any fun lexeme => ['.', '@', ':', '?', '%'].any (lexeme = .symbol ·)) ||
    [.symbol '%', .symbol '('].isSuffixOf before

/-- Before these a word is a name, or a part of `CREATE OR REPLACE`. -/
def gluesPrevious (lexeme : Lexeme) : Bool :=
  lexeme = .symbol '(' || lexeme = .symbol '.' || lexeme.isKeyword "OR"

/-- The word between is not glued to another lexeme of the text, as far as this is known. -/
def standsAlone (text : List Char) (before after : List Lexeme) : Bool :=
  !gluesNext before &&
    match after with
    | [] => (Sqlparse.beyond text).isEmpty
    | next :: _ => !gluesPrevious next

/-- `sqlparse` reads the text by the rules of its lexer. -/
structure Sqlparse.Reads (sqlparse : Sqlparse) (text : List Char) : Prop where
  /-- It splits at every semicolon outside of literals, comments and parentheses. -/
  splits {parsed : List ParsedStatement} (returns : sqlparse.statements text = .ok parsed) :
    (pieces Lexeme.separates (Sqlparse.lexemes text)).length ≤ parsed.length
  /-- A keyword which stands alone has the type which `isKeyword` tells. -/
  types {parsed : List ParsedStatement} {before after : List Lexeme} {name : List Char}
    (returns : sqlparse.statements text = .ok parsed)
    (read : Sqlparse.lexemes text = before ++ .word name :: after)
    (forbidden : isForbiddenKeyword (keyword name) = true) (alone : standsAlone text before after = true) :
    ∃ stmt ∈ parsed, ∃ token ∈ stmt.flatten,
      token.ttype = sqlparse.isKeyword (keyword name) ∧ upper token.value = keyword name
  /-- A `SELECT` begins with this keyword or with `WITH`. -/
  begins {stmt : ParsedStatement} (returns : sqlparse.statements text = .ok [stmt])
    (select : stmt.getType = "SELECT") : ∀ lexeme ∈ (Sqlparse.lexemes text).head?,
      lexeme.isKeyword "SELECT" = true ∨ lexeme.isKeyword "WITH" = true

variable {unicode : Unicode} {sqlparse : Sqlparse} {sql safe executed : List Char}

/-! ### The appended clause -/

variable {text : List Char} {rows : Int}

theorem ensureRowLimit_limited (limited : search (limitPattern unicode) none text = true) :
    ensureRowLimit unicode text rows = text :=
  if_pos limited

theorem ensureRowLimit_unlimited (unlimited : search (limitPattern unicode) none text = false) :
    ensureRowLimit unicode text rows = text ++ (" LIMIT ".toList ++ (toString rows).toList) := by
  rw [ensureRowLimit, if_neg (by simp [unlimited]), List.append_assoc]

theorem query_append (sql : List Char) :
    ∃ count, strip sql = query sql ++ List.replicate count ';' := by
  obtain ⟨removed, split, all⟩ := exists_rstripWith (· = ';') (strip sql)
  have semicolons : ∀ c ∈ removed, c = ';' := fun c member => of_decide_eq_true (all c member)
  refine ⟨removed.length, ?_⟩
  rw [← List.eq_replicate_of_mem semicolons]
  exact split

theorem statements_query (sql : List Char) :
    Postgres.statements (strip sql) = Postgres.statements (query sql) := by
  obtain ⟨count, split⟩ := query_append sql
  rw [split, statements_append_separators]

section Accepted
variable {stmt : ParsedStatement}

end Accepted

theorem executedSql_ok (executes : executedSql unicode sqlparse sql rows = .ok executed) :
    executed = ensureRowLimit unicode (query sql) rows := by
  unfold executedSql at executes
  cases validated : validateSelectOnly unicode sqlparse sql with
  | error refused =>
    rw [validated] at executes
    cases executes
  | ok safe =>
    have returned : safe = query sql := (validateSelectOnly_ok_iff.mp validated).2.2.1
    rw [validated] at executes
    rw [← returned]
    exact (Except.ok.inj executes).symm

/-- When `sqlparse` reads a text as one harmless `SELECT`, a separator which it
hides in a comment, in a literal or between parentheses lets the rest through. -/
theorem hidden_separator_executed {first rest : List Char} {stmt : ParsedStatement}
    (stripped : strip (first ++ ';' :: rest) = first ++ ';' :: rest)
    (reads : sqlparse.statements (first ++ ';' :: rest) = .ok [stmt]) (type : stmt.getType = "SELECT")
    (allowed : ∀ token ∈ stmt.flatten, token.disallowed = false)
    (harmless : search (forbiddenPattern unicode) none (first ++ ';' :: rest) = false)
    (outside : (modeAfter first).within = false) :
    ∃ safe, validateSelectOnly unicode sqlparse (first ++ ';' :: rest) = .ok safe ∧
      Postgres.statements safe = Postgres.statements first ++ Postgres.statements rest := by
  have nonempty : first ++ ';' :: rest ≠ [] := by simp
  refine ⟨query (first ++ ';' :: rest), ?_, ?_⟩
  · rw [validateSelectOnly_ok_iff, stripped]
    exact ⟨nonempty, harmless, by rw [query, stripped], stmt, reads, type, allowed⟩
  · rw [← statements_query, stripped, statements_append_separator outside]

/-- The reader which takes one text for one statement and refuses any other. -/
def Sqlparse.reading (stmt : ParsedStatement) : Sqlparse where
  parse sql := if sql = stmt.str then .ok [stmt] else .error ⟨"Maximum recursion depth exceeded"⟩
  isKeyword word := if isForbiddenKeyword word then .keyword else .other
  lossless {sql statements} parsed := by
    split at parsed
    · next same =>
      cases parsed
      simp [same]
    · cases parsed

theorem Sqlparse.reading_parse (stmt : ParsedStatement) : (reading stmt).parse stmt.str = .ok [stmt] :=
  if_pos rfl

theorem Sqlparse.reading_statements {stmt : ParsedStatement} (nonblank : (strip stmt.str).isEmpty = false) :
    (reading stmt).statements stmt.str = .ok [stmt] := by
  rw [statements, reading_parse]
  simp [nonblank, pure, Except.pure, bind, Except.bind]

def Python.Unicode.ascii : Unicode := ⟨Char.isAlphanum, Char.isDigit, fun _ _ => rfl, fun _ _ => rfl⟩

def countStatement : ParsedStatement where
  flatten := [⟨.dml, "SELECT".toList⟩, ⟨.other, [' ']⟩, ⟨.other, "COUNT".toList⟩, ⟨.other, ['(']⟩,
    ⟨.other, ['*']⟩, ⟨.other, [')']⟩, ⟨.other, [' ']⟩, ⟨.keyword, "FROM".toList⟩, ⟨.other, [' ']⟩,
    ⟨.other, "flights".toList⟩]
  getType := "SELECT"

theorem count_executes : executedSql .ascii (.reading countStatement)
    "SELECT COUNT(*) FROM flights".toList = .ok "SELECT COUNT(*) FROM flights LIMIT 200".toList := by
  decide

end FlightHub
