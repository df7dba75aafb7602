import FlightHub.AI.SelectOnly

/-! When the text which `answer_question` executes is limited. The code searches
the text for the characters of a clause and appends one when there are none; the
server takes a clause for one only where its own lexer reads it, at the
outermost level of the statement. -/
namespace FlightHub
open Python Postgres

variable {unicode : Unicode} {sqlparse : Sqlparse} {sql executed : List Char} {rows : Int}

/-- The executed text is limited exactly when the accepted text is so already, or
holds no clause for the search and ends where an appended one joins it. -/
theorem row_limited_iff (executes : executedSql unicode sqlparse sql rows = .ok executed) :
    CarriesLimit executed rows ↔
      CarriesLimit (query sql) rows ∨
        search (limitPattern unicode) none (query sql) = false ∧ Joins (query sql) := by
  rw [executedSql_ok executes]
  cases found : search (limitPattern unicode) none (query sql) with
  | true =>
    rw [ensureRowLimit_limited found]
    constructor
    · exact Or.inl
    · intro limited
      exact limited.resolve_right (by simp)
  | false =>
    rw [ensureRowLimit_unlimited found, carriesLimit_append (numeral_toString rows)]
    constructor
    · exact Or.imp_right fun joins => ⟨rfl, joins⟩
    · exact Or.imp_right And.right

theorem row_limited_count : CarriesLimit "SELECT COUNT(*) FROM flights LIMIT 200".toList 200 := by
  apply (row_limited_iff count_executes).mpr
  exact .inr ⟨by decide, by decide, by decide⟩

def commentStatement : ParsedStatement where
  flatten := [⟨.dml, "SELECT".toList⟩, ⟨.other, [' ']⟩, ⟨.other, ['*']⟩, ⟨.other, [' ']⟩,
    ⟨.keyword, "FROM".toList⟩, ⟨.other, [' ']⟩, ⟨.other, "flights".toList⟩, ⟨.other, [' ']⟩,
    ⟨.other, "-- all of them".toList⟩]
  getType := "SELECT"

/-- The appended clause continues the comment which ends the query. -/
theorem comment_swallows_limit :
    ¬ ∀ unicode sqlparse sql rows executed, executedSql unicode sqlparse sql rows = .ok executed →
      CarriesLimit executed rows := by
  intro limited
  have executes : executedSql .ascii (.reading commentStatement)
      "SELECT * FROM flights -- all of them".toList 200 =
        .ok "SELECT * FROM flights -- all of them LIMIT 200".toList := by decide
  obtain ⟨front, name, rest, read, keyword, -⟩ := (limited _ _ _ _ _ executes).keyword
  have lexed : lexemes "SELECT * FROM flights -- all of them LIMIT 200".toList =
      [.word "SELECT".toList, .symbol '*', .word "FROM".toList, .word "flights".toList] := by decide
  have limitless : (lexemes "SELECT * FROM flights -- all of them LIMIT 200".toList).all
      (fun lexeme => !lexeme.isKeyword "LIMIT") = true := by
    rw [lexed]
    decide
  have member : Lexeme.word name ∈ lexemes "SELECT * FROM flights -- all of them LIMIT 200".toList :=
    read ▸ List.mem_append_right _ List.mem_cons_self
  have absent := List.all_eq_true.mp limitless _ member
  rw [keyword] at absent
  cases absent

end FlightHub
