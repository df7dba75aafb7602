import FlightHub.Common.Text
import FlightHub.Postgres.Lexer

/-! The package `sqlparse`, which is a parameter, and the rules of its lexer. They
are told by where they differ from those of PostgreSQL: `# ` begins a comment, a
quote behind a backslash ends nothing, comments are not nested, and a semicolon
between parentheses separates nothing. Of a text behind a character which the
package reads in ways of its own, nothing is said. -/
namespace FlightHub
open Python Postgres Lexical

/-- The token types with which the check compares; `other` is any different one. -/
inductive TokenType where
  | keyword
  | ddl
  | dml
  | other
deriving DecidableEq

structure Token where
  ttype : TokenType
  value : List Char

/-- A parsed statement, by its `flatten()` and its `get_type()`. -/
structure ParsedStatement where
  flatten : List Token
  getType : String

def ParsedStatement.str (stmt : ParsedStatement) : List Char := stmt.flatten.flatMap Token.value

/-- Raised for a text which is too long or nested too deeply. -/
structure SQLParseError where
  message : String
deriving DecidableEq

/-- The package does not validate and keeps every character. `isKeyword` is its
table of keywords, in upper case. -/
structure Sqlparse where
  parse : List Char → Except SQLParseError (List ParsedStatement)
  isKeyword : List Char → TokenType
  lossless : ∀ {sql statements}, parse sql = .ok statements →
    statements.flatMap ParsedStatement.str = sql

namespace Sqlparse

/-- `[s for s in sqlparse.parse(cleaned) if str(s).strip()]`. -/
def statements (sqlparse : Sqlparse) (cleaned : List Char) : Except SQLParseError (List ParsedStatement) := do
  let parsed ← sqlparse.parse cleaned
  return parsed.filter fun stmt => !(strip stmt.str).isEmpty

/-! ### Where the lexers part -/

/-- PostgreSQL's lexer, with the last character and the number of open parentheses. -/
structure Server where
  mode : Mode
  previous : Option Char
  depth : Nat

def initial : Server := ⟨.gap none, none, 0⟩

def deeper (depth : Nat) : Lexeme → Nat
  | .symbol '(' => depth + 1
  | .symbol ')' => depth - 1
  | _ => depth

def Server.step (state : Server) (c : Char) : Server × List Lexeme :=
  let moved := Postgres.step state.mode c
  (⟨moved.1, some c, moved.2.foldl deeper state.depth⟩, moved.2)

def server : Machine Server Char Lexeme := ⟨Server.step, fun state => finish state.mode⟩

/-- These are read together with the operator characters behind them. -/
def isOperator (c : Char) : Bool := c ∈ ['+', '/', '@', '#', '%', '^', '&', '|']

/-- `c` is not read as the server reads it outside of literals and comments. -/
def unlike (previous : Option Char) (depth : Nat) (c : Char) : Bool :=
  c ∈ ['#', '$', '`', '[', '\\'] || 128 ≤ c.toNat || ('\x1c' ≤ c && c ≤ '\x1f') ||
    (c = '-' || c = '/') && previous.any isOperator || c = ';' && 0 < depth

def parts (state : Server) (c : Char) : Bool :=
  match state.mode with
  | .literal _ _ => c = '\'' && state.previous = some '\\'
  | .quoted _ _ => c = '"' && state.previous = some '\\'
  | .blockComment _ previous => previous = some '/' && c = '*'
  | .escaped _ | .lineComment _ | .dollarQuote _ _ _ => false
  | _ => unlike state.previous state.depth c

/-- What PostgreSQL reads from where they part. -/
def beyond (text : List Char) : List Lexeme := server.parted parts initial text

/-! ### The lexer -/

inductive State where
  | alike (state : Server)
  | hash (depth : Nat)
  | comment (depth : Nat)
  | lost

def part (state : Server) (c : Char) : State × List Lexeme :=
  match state.mode with
  | .literal escapes text => (.alike ⟨.literal escapes (c :: text), some c, state.depth⟩, [])
  | .quoted unicode name => (.alike ⟨.quoted unicode (c :: name), some c, state.depth⟩, [])
  | .blockComment _ _ => (.alike ⟨.blockComment 0 (some c), some c, state.depth⟩, [])
  | mode =>
    if c = '#' ∧ !state.previous.any fun d => identCont d || isOperator d then
      (.hash state.depth, finish mode)
    else if c = ';' then (.alike ⟨.gap none, some c, state.depth⟩, finish mode)
    else (.lost, [])

def step : State → Char → State × List Lexeme
  | .alike state, c =>
    if parts state c then part state c else ((.alike (state.step c).1), (state.step c).2)
  | .hash depth, c => (if c = ' ' then .comment depth else .lost, [])
  | .comment depth, c => (if isNewline c then .alike ⟨.gap none, some c, depth⟩ else .comment depth, [])
  | .lost, _ => (.lost, [])

def lexer : Machine State Char Lexeme where
  step := step
  finish
    | .alike state => finish state.mode
    | _ => []

def lexemes (text : List Char) : List Lexeme := lexer.read (.alike initial) text

variable {text : List Char}

example : lexemes "SELECT 1 # 2; DROP\n;('\\'; DROP'; [x".toList =
    [.word "SELECT".toList, .number, separator, .symbol '(', .literal,
      .content false "\\'; DROP".toList] := by decide

end Sqlparse
end FlightHub
