import FlightHub.Lexical.Machine

/-! The lexical rules of PostgreSQL 16 with `standard_conforming_strings` on, and
the statements into which the server divides a text. A text which the server's
lexer refuses, for a literal without its end for example, is read as far as its
parts go. -/
namespace Postgres
open Lexical

/-- What a statement is made of. A quoted identifier is announced by its opening
quote, and its name follows when it is complete; with `unicode` it is written
`U&"…"` and its escapes are not resolved. A literal is announced as well, and
its contents follow, one for each part of a literal which is continued; with
`escapes` they are written `E'…'` and not resolved. -/
inductive Lexeme where
  | word (name : List Char)
  | quote
  | quoted (unicode : Bool) (name : List Char)
  | literal
  | content (escapes : Bool) (text : List Char)
  | number
  | symbol (c : Char)
deriving DecidableEq

/-- A literal which a quote continues if a newline stands in between. -/
structure Closed where
  escapes : Bool
  newline : Bool := false
deriving DecidableEq

/-- What is still being read is kept in reverse. -/
inductive Mode where
  | gap (last : Option Closed)
  | word (name : List Char)
  | number
  | parameter
  | dash (last : Option Closed)
  | slash
  | dollar (tag : List Char)
  | literal (escapes : Bool) (text : List Char)
  | escaped (text : List Char)
  | literalQuote (escapes : Bool) (text : List Char)
  | unicodePrefix (name : List Char)
  | quoted (unicode : Bool) (name : List Char)
  | quotedQuote (unicode : Bool) (name : List Char)
  | lineComment (last : Option Closed)
  | blockComment (depth : Nat) (previous : Option Char)
  | dollarQuote (tag text : List Char) (sinceDollar : Option (List Char))
deriving DecidableEq

def isSpace (c : Char) : Bool := c ∈ [' ', '\t', '\n', '\r', '\x0b', '\x0c']

def isNewline (c : Char) : Bool := c = '\n' || c = '\r'

def identStart (c : Char) : Bool := c.isAlpha || c = '_' || 128 ≤ c.toNat

def identCont (c : Char) : Bool := identStart c || c.isDigit || c = '$'

def Closed.past (c : Char) (last : Closed) : Closed :=
  { last with newline := last.newline || isNewline c }

def start (last : Option Closed) (c : Char) : Mode × List Lexeme :=
  if isSpace c then (.gap (last.map (·.past c)), [])
  else if c = '\'' then
    match last with
    | some ⟨escapes, true⟩ => (.literal escapes [], [])
    | _ => (.literal false [], [.literal])
  else if c = '"' then (.quoted false [], [.quote])
  else if c = '-' then (.dash last, [])
  else if c = '/' then (.slash, [])
  else if c = '$' then (.dollar [], [])
  else if identStart c then (.word [c], [])
  else if c.isDigit then (.number, [.number])
  else (.gap none, [.symbol c])

/-- The lexemes which the end of the text, or a blank, completes. -/
def finish : Mode → List Lexeme
  | .word name => [.word name.reverse]
  | .dash _ => [.symbol '-']
  | .slash => [.symbol '/']
  | .dollar [] => [.symbol '$']
  | .dollar tag => [.symbol '$', .word tag.reverse]
  | .unicodePrefix name => [.word name.reverse, .symbol '&']
  | .quotedQuote unicode name => [.quoted unicode name.reverse]
  | .literalQuote escapes text => [.content escapes text.reverse]
  | _ => []

/-- The lexeme in `mode` ends before `c`. -/
def complete (mode : Mode) (last : Option Closed) (c : Char) : Mode × List Lexeme :=
  ((start last c).1, finish mode ++ (start last c).2)

/-- The end of a block comment within `depth` others. -/
def leaveComment : Nat → Mode
  | 0 => .gap none
  | depth + 1 => .blockComment depth none

def step : Mode → Char → Mode × List Lexeme
  | .gap last, c => start last c
  | .word name, c =>
    if identCont c then (.word (c :: name), [])
    else if c = '\'' ∧ (name = ['e'] ∨ name = ['E']) then (.literal true [], [.literal])
    else if c = '&' ∧ (name = ['u'] ∨ name = ['U']) then (.unicodePrefix name, [])
    else complete (.word name) none c
  | .number, c =>
    if identStart c || c.isDigit || c = '.' then (.number, []) else complete .number none c
  | .parameter, c =>
    if identStart c || c.isDigit then (.parameter, []) else complete .parameter none c
  | .dash last, c => if c = '-' then (.lineComment last, []) else complete (.dash last) none c
  | .slash, c => if c = '*' then (.blockComment 0 none, []) else complete .slash none c
  | .dollar tag, c =>
    if c = '$' then (.dollarQuote tag [] none, [.literal])
    else if identStart c || (c.isDigit && !tag.isEmpty) then (.dollar (c :: tag), [])
    else if c.isDigit then (.parameter, [.symbol '$'])
    else if c = '\'' ∧ (tag = ['e'] ∨ tag = ['E']) then (.literal true [], [.symbol '$', .literal])
    else complete (.dollar tag) none c
  | .literal escapes text, c =>
    if c = '\'' then (.literalQuote escapes text, [])
    else if c = '\\' ∧ escapes then (.escaped (c :: text), [])
    else (.literal escapes (c :: text), [])
  | .escaped text, c => (.literal true (c :: text), [])
  | .literalQuote escapes text, c =>
    if c = '\'' then (.literal escapes (c :: text), [])
    else complete (.literalQuote escapes text) (some ⟨escapes, false⟩) c
  | .unicodePrefix name, c =>
    if c = '"' then (.quoted true [], [.quote])
    else if c = '\'' then (.literal false [], [.literal])
    else complete (.unicodePrefix name) none c
  | .quoted unicode name, c =>
    if c = '"' then (.quotedQuote unicode name, []) else (.quoted unicode (c :: name), [])
  | .quotedQuote unicode name, c =>
    if c = '"' then (.quoted unicode (c :: name), []) else complete (.quotedQuote unicode name) none c
  | .lineComment last, c =>
    if isNewline c then (.gap (last.map (·.past c)), []) else (.lineComment last, [])
  | .blockComment depth previous, c =>
    if previous = some '*' ∧ c = '/' then (leaveComment depth, [])
    else if previous = some '/' ∧ c = '*' then (.blockComment (depth + 1) none, [])
    else (.blockComment depth (some c), [])
  | .dollarQuote tag text sinceDollar, c =>
    if c = '$' then
      if sinceDollar = some tag then
        (.gap none, [.content false (text.drop (tag.length + 1)).reverse])
      else (.dollarQuote tag (c :: text) (some []), [])
    else (.dollarQuote tag (c :: text) (sinceDollar.map (c :: ·)), [])

def lexer : Machine Mode Char Lexeme := ⟨step, finish⟩

def lexemes (text : List Char) : List Lexeme := lexer.read (.gap none) text

def modeAfter (text : List Char) : Mode := lexer.advance (.gap none) text

/-- The text goes on within a literal, a quoted identifier or a comment. -/
def Mode.within : Mode → Bool
  | .literal _ _ | .escaped _ | .quoted _ _ | .lineComment _ | .blockComment _ _ | .dollarQuote _ _ _ => true
  | _ => false

def separator : Lexeme := .symbol ';'

def Lexeme.separates (lexeme : Lexeme) : Bool := lexeme = separator

theorem separator_separates : separator.separates = true := rfl

/-- The statements of a simple query. Blank ones are not executed. -/
def statements (text : List Char) : List (List Lexeme) := pieces Lexeme.separates (lexemes text)

def keyword (name : List Char) : List Char := name.map Char.toUpper

def Lexeme.isKeyword (lexeme : Lexeme) (name : String) : Bool :=
  match lexeme with
  | .word text => keyword text = name.toList
  | _ => false

/-- The keywords with which the statement behind the common table expressions can begin. -/
def mainVerbs : List String := ["SELECT", "INSERT", "UPDATE", "DELETE", "MERGE", "VALUES", "TABLE"]

/-- A lexeme after which a name stands, also one which is spelled like a verb. -/
def Lexeme.namesNext (lexeme : Lexeme) : Bool :=
  lexeme = .symbol ',' || ["WITH", "RECURSIVE", "BY", "SET", "USING"].any lexeme.isKeyword

def mainVerb (depth : Nat) (previous : Lexeme) : List Lexeme → Option String
  | [] => none
  | lexeme :: rest =>
    if lexeme = .symbol '(' then mainVerb (depth + 1) lexeme rest
    else if lexeme = .symbol ')' then mainVerb (depth - 1) lexeme rest
    else
      match mainVerbs.find? lexeme.isKeyword with
      | some verb => if depth = 0 ∧ previous.namesNext = false then some verb
        else mainVerb depth lexeme rest
      | none => mainVerb depth lexeme rest

def verb : List Lexeme → Option String
  | [] => none
  | lexeme :: rest =>
    if lexeme.isKeyword "WITH" then mainVerb 0 lexeme rest else mainVerbs.find? lexeme.isKeyword

/-! ### What a longer text adds -/

/-- A character which ends no literal, quoted identifier or comment. -/
def plain (c : Char) : Bool := c ∉ ['\'', '"', '$', '/', '\n', '\r']

theorem finish_within {mode : Mode} (inside : mode.within = true) : finish mode = [] := by
  cases mode <;> first | rfl | cases inside

theorem step_within {mode : Mode} {c : Char} (inside : mode.within = true) (harmless : plain c = true) :
    (step mode c).1.within = true ∧ (step mode c).2 = [] := by
  obtain ⟨quote, doubleQuote, dollar, slash, newline, carriageReturn⟩ :
      c ≠ '\'' ∧ c ≠ '"' ∧ c ≠ '$' ∧ c ≠ '/' ∧ c ≠ '\n' ∧ c ≠ '\r' := by
    simpa [plain] using harmless
  cases mode with
  | literal escapes text =>
    rw [step, if_neg quote]
    split <;> exact ⟨rfl, rfl⟩
  | escaped text => exact ⟨rfl, rfl⟩
  | quoted unicode name =>
    rw [step, if_neg doubleQuote]
    exact ⟨rfl, rfl⟩
  | lineComment last =>
    rw [step, if_neg (by simp [isNewline, newline, carriageReturn])]
    exact ⟨rfl, rfl⟩
  | blockComment depth previous =>
    rw [step, if_neg fun closes => slash closes.2]
    split <;> exact ⟨rfl, rfl⟩
  | dollarQuote tag text sinceDollar =>
    rw [step, if_neg dollar]
    exact ⟨rfl, rfl⟩
  | _ => cases inside

/-- A separator completes what is being read, unless it belongs to it. -/
theorem step_separator {mode : Mode} (outside : mode.within = false) :
    step mode ';' = (.gap none, finish mode ++ [separator]) := by
  cases mode with
  | word name | dollar name => simp [step, complete, start, identCont, identStart, isSpace, separator]
  | literal | escaped | quoted | lineComment | blockComment | dollarQuote => cases outside
  | _ => rfl

theorem step_blank {mode : Mode} (outside : mode.within = false) :
    ∃ last, step mode ' ' = (.gap last, finish mode) := by
  cases mode with
  | word name | dollar name => simp [step, complete, start, identCont, identStart, isSpace]
  | literal | escaped | quoted | lineComment | blockComment | dollarQuote => cases outside
  | _ => exact ⟨_, rfl⟩

variable {text more : List Char} {added : List Lexeme}

theorem read_append_within {mode : Mode} (inside : (lexer.advance mode text).within = true)
    (harmless : ∀ c ∈ more, plain c = true) : lexer.read mode (text ++ more) = lexer.read mode text := by
  have nothing : lexer.read (lexer.advance mode text) more = [] :=
    @Machine.read_within _ _ _ lexer _ (·.within = true) (plain · = true) step_within finish_within
      inside more harmless
  have ended : lexer.finish (lexer.advance mode text) = [] := finish_within inside
  have extended : lexer.read mode (text ++ more) = lexer.read mode text ++ [] :=
    Machine.read_extend (by rw [List.append_nil]; exact nothing.trans ended.symm)
  rw [extended, List.append_nil]

theorem lexemes_append_within (inside : (modeAfter text).within = true)
    (harmless : ∀ c ∈ more, plain c = true) : lexemes (text ++ more) = lexemes text :=
  read_append_within inside harmless

theorem read_append_blank {mode : Mode} (outside : (lexer.advance mode text).within = false)
    (adds : ∀ last, lexer.read (.gap last) more = added) :
    lexer.read mode (text ++ ' ' :: more) = lexer.read mode text ++ added := by
  obtain ⟨last, moved⟩ := step_blank outside
  refine Machine.read_extend ?_
  rw [Machine.read_cons]
  change (step (lexer.advance mode text) ' ').2 ++
    lexer.read (step (lexer.advance mode text) ' ').1 more = _
  rw [moved, adds last]
  rfl

theorem lexemes_append_blank (outside : (modeAfter text).within = false)
    (adds : ∀ last, lexer.read (.gap last) more = added) :
    lexemes (text ++ ' ' :: more) = lexemes text ++ added :=
  read_append_blank outside adds

theorem lexemes_append_gap {last : Option Closed} (begins : modeAfter text = .gap last)
    (more : List Char) : lexemes (text ++ more) = lexemes text ++ lexer.read (.gap last) more := by
  have whole : lexemes text = lexer.emitted (.gap none) text ++ lexer.finish (modeAfter text) := rfl
  have ended : lexer.finish (modeAfter text) = [] := by
    rw [begins]
    rfl
  rw [whole, ended, List.append_nil, ← begins]
  exact Machine.read_append text more

theorem lexemes_append_separator (outside : (modeAfter text).within = false) :
    lexemes (text ++ ';' :: more) = lexemes text ++ separator :: lexemes more := by
  refine Machine.read_extend ?_
  rw [Machine.read_cons]
  change (step (modeAfter text) ';').2 ++ lexer.read (step (modeAfter text) ';').1 more = _
  rw [step_separator outside, List.append_assoc]
  rfl

theorem lexemes_separators (count : Nat) :
    lexemes (List.replicate count ';') = List.replicate count separator := by
  induction count with
  | zero => rfl
  | succ count ih =>
    have first := @lexemes_append_separator [] (List.replicate count ';') rfl
    rw [List.replicate_succ, List.replicate_succ, ← ih]
    exact first

theorem lexemes_append_separators (count : Nat) :
    lexemes (text ++ List.replicate count ';') =
      lexemes text ++ if (modeAfter text).within then [] else List.replicate count separator := by
  cases inside : (modeAfter text).within with
  | true =>
    rw [if_pos rfl, List.append_nil]
    exact lexemes_append_within inside (by simp [plain])
  | false =>
    rw [if_neg Bool.false_ne_true]
    cases count with
    | zero => rw [List.replicate_zero, List.replicate_zero, List.append_nil, List.append_nil]
    | succ count =>
      rw [List.replicate_succ, List.replicate_succ, lexemes_append_separator inside,
        lexemes_separators]

/-- The server executes what stands on both sides of a separator. -/
theorem statements_append_separator (outside : (modeAfter text).within = false) :
    statements (text ++ ';' :: more) = statements text ++ statements more := by
  rw [statements, lexemes_append_separator outside, pieces.append_cons _ _ separator_separates]
  rfl

theorem statements_append_separators (count : Nat) :
    statements (text ++ List.replicate count ';') = statements text := by
  rw [statements, lexemes_append_separators]
  split
  · rw [List.append_nil, statements]
  · exact pieces.append_separators separator_separates count

example : (statements "SELECT ';' -- x;\n; /* /* ; */ */ SELECT $a$;$$;$a$, E'\\';'; ;".toList).length = 2 := by
  decide

end Postgres
