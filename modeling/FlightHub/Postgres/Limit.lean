import FlightHub.Postgres.Lexer
import Mathlib.Tactic.IntervalCases

/-! Numbers, and the clause `LIMIT m` of the first statement of a text: where it
stands among the lexemes, and when a clause which is appended to a text becomes
one of its outermost level. -/
namespace Postgres
open Lexical

/-! ### Numbers -/

theorem exists_digit {c : Char} (digit : c.isDigit = true) : ∃ n < 10, c = Char.ofNat (48 + n) := by
  simp only [Char.isDigit, Bool.and_eq_true, decide_eq_true_eq, ge_iff_le, UInt32.le_iff_toNat_le] at digit
  have low : 48 ≤ c.toNat := digit.1
  have high : c.toNat ≤ 57 := digit.2
  refine ⟨c.toNat - 48, by omega, ?_⟩
  rw [Nat.add_sub_cancel' low, Char.ofNat_toNat]

theorem start_digit {c : Char} (digit : c.isDigit = true) (last : Option Closed) :
    start last c = (.number, [.number]) := by
  obtain ⟨n, bound, rfl⟩ := exists_digit digit
  interval_cases n <;> rfl

theorem plain_digit {c : Char} (digit : c.isDigit = true) : plain c = true := by
  obtain ⟨n, bound, rfl⟩ := exists_digit digit
  interval_cases n <;> rfl

/-- A written integer, with its sign directly in front of the digits. -/
inductive Numeral : List Char → Int → Prop where
  | unsigned {digits : List Char} (nonempty : digits ≠ []) (all : ∀ c ∈ digits, c.isDigit = true) :
      Numeral digits (Nat.ofDigitChars 10 digits 0)
  | negative {digits : List Char} (nonempty : digits ≠ []) (all : ∀ c ∈ digits, c.isDigit = true) :
      Numeral ('-' :: digits) (-Nat.ofDigitChars 10 digits 0)

theorem isDigit_toDigits (n : Nat) : ∀ c ∈ Nat.toDigits 10 n, c.isDigit = true := by
  intro c member
  exact Nat.isDigit_of_mem_toDigits (by decide) (by decide) member

theorem toList_ofNat (n : Nat) : (toString (Int.ofNat n)).toList = Nat.toDigits 10 n := Nat.toList_repr

theorem toList_negSucc (n : Nat) :
    (toString (Int.negSucc n)).toList = '-' :: Nat.toDigits 10 (n + 1) := by
  change ("-" ++ Nat.repr (n + 1)).toList = _
  rw [String.toList_append, Nat.toList_repr]
  rfl

theorem numeral_toString (n : Int) : Numeral (toString n).toList n := by
  cases n with
  | ofNat n =>
    have numeral := Numeral.unsigned Nat.toDigits_ne_nil (isDigit_toDigits n)
    rw [Nat.ofDigitChars_ten_toDigits] at numeral
    rw [toList_ofNat]
    exact numeral
  | negSucc n =>
    have numeral := Numeral.negative Nat.toDigits_ne_nil (isDigit_toDigits (n + 1))
    rw [Nat.ofDigitChars_ten_toDigits] at numeral
    rw [toList_negSucc]
    exact numeral

def signOrDigit (c : Char) : Bool := c = '-' || c.isDigit

theorem Numeral.chars {numeral : List Char} {n : Int} (written : Numeral numeral n) :
    numeral ≠ [] ∧ ∀ c ∈ numeral, signOrDigit c = true := by
  cases written with
  | unsigned nonempty all => exact ⟨nonempty, fun c member => by simp [signOrDigit, all c member]⟩
  | negative nonempty all =>
    refine ⟨List.cons_ne_nil _ _, List.forall_mem_cons.mpr ⟨rfl, ?_⟩⟩
    exact fun c member => by simp [signOrDigit, all c member]

theorem advance_digits {digits : List Char} (all : ∀ c ∈ digits, c.isDigit = true) :
    lexer.advance .number digits = .number ∧ lexer.emitted .number digits = [] := by
  induction digits with
  | nil => exact ⟨rfl, rfl⟩
  | cons c rest ih =>
    obtain ⟨digit, all⟩ := List.forall_mem_cons.mp all
    have moved : lexer.step .number c = (.number, []) := by simp [lexer, step, digit]
    simp only [Machine.advance, Machine.emitted, moved, List.nil_append]
    exact ih all

theorem step_dash_digit {c : Char} (digit : c.isDigit = true) (last : Option Closed) :
    lexer.step (.dash last) c = (.number, [.symbol '-', .number]) := by
  have other : c ≠ '-' := by
    rintro rfl
    cases digit
  simp [lexer, step, complete, other, start_digit digit, finish]

/-- The lexemes of a numeral. -/
def marks (n : List Char) : List Lexeme :=
  if n.head? = some '-' then [.symbol '-', .number] else [.number]

theorem Numeral.advance {numeral : List Char} {n : Int} (written : Numeral numeral n)
    (last : Option Closed) :
    lexer.advance (.gap last) numeral = .number ∧ lexer.emitted (.gap last) numeral = marks numeral := by
  cases written with
  | unsigned nonempty all =>
    cases numeral with
    | nil => exact absurd rfl nonempty
    | cons c rest =>
      obtain ⟨digit, all⟩ := List.forall_mem_cons.mp all
      obtain ⟨mode, silent⟩ := advance_digits all
      have moved : lexer.step (.gap last) c = (.number, [.number]) := start_digit digit last
      have unsigned : c ≠ '-' := by
        rintro rfl
        cases digit
      simp [Machine.advance, Machine.emitted, moved, mode, silent, marks, unsigned]
  | @negative digits nonempty all =>
    cases digits with
    | nil => exact absurd rfl nonempty
    | cons c rest =>
      obtain ⟨digit, all⟩ := List.forall_mem_cons.mp all
      obtain ⟨mode, silent⟩ := advance_digits all
      have minus : lexer.step (.gap last) '-' = (.dash last, []) := rfl
      simp [Machine.advance, Machine.emitted, minus, step_dash_digit digit, mode, silent, marks]

/-- Within a numeral no lexeme begins. -/
theorem Numeral.advance_initial {first rest : List Char} {n : Int}
    (written : Numeral (first ++ rest) n) (begun : first ≠ []) (last other : Option Closed) :
    lexer.advance (.gap last) first ≠ .gap other := by
  have number {digits : List Char} (all : ∀ c ∈ digits, c.isDigit = true) :
      lexer.advance .number digits ≠ .gap other := by
    rw [(advance_digits all).1]
    exact Mode.noConfusion
  cases first with
  | nil => exact absurd rfl begun
  | cons c first =>
    generalize same : c :: first ++ rest = numeral at written
    cases written with
    | unsigned nonempty all =>
      subst same
      obtain ⟨digit, all⟩ := List.forall_mem_cons.mp all
      have moved : lexer.step (.gap last) c = (.number, [.number]) := start_digit digit last
      simp only [Machine.advance, moved]
      exact number fun other member => all other (List.mem_append_left _ member)
    | negative nonempty all =>
      obtain ⟨rfl, rfl⟩ := List.cons.inj same
      have minus : lexer.step (.gap last) '-' = (.dash last, []) := rfl
      simp only [Machine.advance, minus]
      cases first with
      | nil => exact Mode.noConfusion
      | cons d first =>
        obtain ⟨digit, all⟩ := List.forall_mem_cons.mp all
        simp only [Machine.advance, step_dash_digit digit]
        exact number fun other member => all other (List.mem_append_left _ member)

/-! ### The clause -/

def parenthesisDepth (lexemes : List Lexeme) : Int :=
  lexemes.count (.symbol '(') - lexemes.count (.symbol ')')

/-- What follows belongs to the first statement which is not blank, outside of
all parentheses. -/
def outermost (lexemes : List Lexeme) : Bool :=
  parenthesisDepth lexemes = 0 && (lexemes.dropWhile Lexeme.separates).all fun lexeme => !lexeme.separates

/-- A number goes on, or is refused with what follows it. -/
def continuesNumber (c : Char) : Bool := identStart c || c.isDigit || c = '.'

/-- A lexeme which ends the expression of a `LIMIT` clause. -/
def endsLimit (lexeme : Lexeme) : Bool :=
  lexeme.separates || lexeme.isKeyword "OFFSET" || lexeme.isKeyword "FOR"

/-- Between `before` and `after` stands the number of a clause `LIMIT m`. -/
structure LimitAt (before numeral after : List Char) (m : Int) : Prop where
  begins : ∃ last, modeAfter before = .gap last
  keyword : ∃ front name, lexemes before = front ++ [.word name] ∧
    Lexeme.isKeyword (.word name) "LIMIT" = true ∧ outermost front = true
  number : Numeral numeral m
  whole : ∀ c ∈ after.head?, continuesNumber c = false
  ends : ∀ lexeme ∈ (lexer.read .number after).head?, endsLimit lexeme = true

/-- The first statement has a clause `LIMIT m`, `m ≤ rows`, at its outermost level. -/
def CarriesLimit (text : List Char) (rows : Int) : Prop :=
  ∃ before numeral after m, text = before ++ (numeral ++ after) ∧ LimitAt before numeral after m ∧
    m ≤ rows

/-- A clause which is appended after a blank joins the first statement. -/
def Joins (text : List Char) : Prop := (modeAfter text).within = false ∧ outermost (lexemes text) = true

variable {text before numeral after clause : List Char} {m rows : Int}

theorem LimitAt.lexemes_eq (at_limit : LimitAt before numeral after m) :
    ∃ front name, lexemes (before ++ (numeral ++ after)) =
        front ++ .word name :: (marks numeral ++ lexer.read .number after) ∧
      Lexeme.isKeyword (.word name) "LIMIT" = true ∧ outermost front = true := by
  obtain ⟨last, begins⟩ := at_limit.begins
  obtain ⟨front, name, read, limit, outer⟩ := at_limit.keyword
  obtain ⟨mode, emitted⟩ := at_limit.number.advance last
  refine ⟨front, name, ?_, limit, outer⟩
  rw [lexemes_append_gap begins, read, Machine.read_append, mode, emitted, List.append_assoc]
  rfl

/-- Without the keyword at the outermost level there is no clause. -/
theorem CarriesLimit.keyword (carries : CarriesLimit text rows) :
    ∃ front name rest, lexemes text = front ++ .word name :: rest ∧
      Lexeme.isKeyword (.word name) "LIMIT" = true ∧ outermost front = true := by
  obtain ⟨before, numeral, after, m, rfl, at_limit, -⟩ := carries
  obtain ⟨front, name, read, limit, outer⟩ := at_limit.lexemes_eq
  exact ⟨front, name, _, read, limit, outer⟩

theorem outermost_append {front added : List Lexeme} (outer : outermost front = true)
    (flat : ∀ lexeme ∈ added, lexeme ≠ .symbol '(' ∧ lexeme ≠ .symbol ')' ∧ lexeme.separates = false) :
    outermost (front ++ added) = true := by
  obtain ⟨depth, single⟩ := Bool.and_eq_true_iff.mp outer
  have opening : added.count (.symbol '(') = 0 :=
    List.count_eq_zero.mpr fun member => (flat _ member).1 rfl
  have closing : added.count (.symbol ')') = 0 :=
    List.count_eq_zero.mpr fun member => (flat _ member).2.1 rfl
  have plain : added.all (fun lexeme => !lexeme.separates) = true := by
    rw [List.all_eq_true]
    intro lexeme member
    rw [(flat lexeme member).2.2, Bool.not_false]
  apply Bool.and_eq_true_iff.mpr
  constructor
  · rw [decide_eq_true_eq] at depth ⊢
    simpa only [parenthesisDepth, List.count_append, opening, closing, Nat.add_zero] using depth
  · rw [List.dropWhile_append]
    split
    · exact List.all_eq_true.mpr fun lexeme member =>
        List.all_eq_true.mp plain lexeme ((List.dropWhile_sublist _).subset member)
    · rw [List.all_append, single, plain, Bool.and_self]

theorem marks_flat (numeral : List Char) : ∀ lexeme ∈ marks numeral,
    lexeme ≠ .symbol '(' ∧ lexeme ≠ .symbol ')' ∧ lexeme.separates = false := by
  unfold marks
  split <;> decide

theorem advance_within {mode : Mode} (inside : mode.within = true)
    (harmless : ∀ c ∈ clause, plain c = true) : (lexer.advance mode clause).within = true := by
  induction clause generalizing mode with
  | nil => exact inside
  | cons c rest ih =>
    obtain ⟨first, others⟩ := List.forall_mem_cons.mp harmless
    exact ih (step_within inside first).1 others

theorem Numeral.plain (number : Numeral numeral m) :
    ∀ c ∈ " LIMIT ".toList ++ numeral, plain c = true := by
  intro c member
  rcases List.mem_append.mp member with member | member
  · have keyword : " LIMIT ".toList.all Postgres.plain = true := by decide
    exact List.all_eq_true.mp keyword c member
  · have known := number.chars.2 c member
    rw [signOrDigit, Bool.or_eq_true, decide_eq_true_eq] at known
    rcases known with rfl | digit
    · rfl
    · exact plain_digit digit

theorem read_limit_keyword (last : Option Closed) :
    lexer.read (.gap last) "LIMIT ".toList = [.word "LIMIT".toList] := by
  cases last <;> rfl

theorem modeAfter_keyword (outside : (modeAfter text).within = false) :
    modeAfter (text ++ " LIMIT ".toList) = .gap none := by
  obtain ⟨last, moved⟩ := step_blank outside
  rw [modeAfter, Machine.advance_append]
  change lexer.advance (step (modeAfter text) ' ').1 "LIMIT ".toList = .gap none
  rw [moved]
  cases last <;> rfl

/-- An appended clause stands behind the text, its blank and its keyword. -/
theorem Joins.carries (joins : Joins text) (number : Numeral numeral m) :
    CarriesLimit (text ++ (" LIMIT ".toList ++ numeral)) m := by
  obtain ⟨outside, outer⟩ := joins
  refine ⟨text ++ " LIMIT ".toList, numeral, [], m, ?_, ?_, le_refl m⟩
  · rw [List.append_nil, List.append_assoc]
  · constructor
    · exact ⟨none, modeAfter_keyword outside⟩
    · exact ⟨lexemes text, "LIMIT".toList, lexemes_append_blank outside read_limit_keyword, rfl, outer⟩
    · exact number
    · intro c member
      cases member
    · intro lexeme member
      cases member

/-- A number in what was appended is the one of the clause, whose keyword is
read where the text ends. -/
theorem LimitAt.joins {front written : List Char} {n : Int} (number : Numeral numeral m)
    (split : " LIMIT ".toList ++ numeral = front ++ (written ++ after))
    (at_limit : LimitAt (text ++ front) written after n) : Joins text := by
  obtain ⟨last, begins⟩ := at_limit.begins
  have outside : (modeAfter text).within = false := by
    by_contra inside
    have stays : (lexer.advance (modeAfter text) front).within = true := by
      apply advance_within (Bool.of_not_eq_false inside)
      intro c member
      exact number.plain c (split ▸ List.mem_append_left _ member)
    rw [modeAfter, Machine.advance_append] at begins
    rw [modeAfter, begins] at stays
    cases stays
  have keyword : front = " LIMIT ".toList := by
    rcases List.append_eq_append_iff.mp split with ⟨begun, rfl, rest⟩ | ⟨rest, same, begun⟩
    · cases begun with
      | nil => exact List.append_nil _
      | cons c begun =>
        rw [modeAfter, ← List.append_assoc, Machine.advance_append] at begins
        change lexer.advance (modeAfter (text ++ " LIMIT ".toList)) (c :: begun) = .gap last at begins
        rw [modeAfter_keyword outside] at begins
        exact absurd begins ((rest ▸ number).advance_initial (List.cons_ne_nil _ _) none last)
    · cases rest with
      | nil => rw [same, List.append_nil]
      | cons c rest =>
        obtain ⟨nonempty, known⟩ := at_limit.number.chars
        cases written with
        | nil => exact absurd rfl nonempty
        | cons d written =>
          obtain ⟨rfl, -⟩ := List.cons.inj begun
          have letters : " LIMIT ".toList.all (fun c => !signOrDigit c) = true := by decide
          have letter := List.all_eq_true.mp letters d (same ▸ by simp)
          rw [known d List.mem_cons_self] at letter
          cases letter
  subst keyword
  obtain ⟨before, name, read, -, outer⟩ := at_limit.keyword
  have appended : lexemes (text ++ ' ' :: "LIMIT ".toList) = lexemes text ++ [.word "LIMIT".toList] :=
    lexemes_append_blank outside read_limit_keyword
  obtain ⟨rfl, -⟩ := List.append_inj' (appended.symm.trans read) rfl
  exact ⟨outside, outer⟩

theorem read_clause (number : Numeral numeral m) (last : Option Closed) :
    lexer.read (.gap last) ("LIMIT ".toList ++ numeral) = .word "LIMIT".toList :: marks numeral := by
  have word : lexer.emitted (.gap last) "LIMIT ".toList = [.word "LIMIT".toList] := by cases last <;> rfl
  have after : lexer.advance (.gap last) "LIMIT ".toList = .gap none := by cases last <;> rfl
  obtain ⟨mode, emitted⟩ := number.advance none
  have ended : lexer.finish .number = [] := rfl
  rw [Machine.read_append, word, after, Machine.read, mode, emitted, ended, List.append_nil,
    List.singleton_append]

/-- What follows a number is read as before, and the appended clause after it
unless it is swallowed. -/
theorem read_number_append (number : Numeral numeral m) (after : List Char) :
    lexer.read .number (after ++ (" LIMIT ".toList ++ numeral)) = lexer.read .number after ++
      if (lexer.advance .number after).within then [] else .word "LIMIT".toList :: marks numeral := by
  cases inside : (lexer.advance .number after).within with
  | true =>
    rw [if_pos rfl, List.append_nil]
    exact read_append_within inside number.plain
  | false =>
    rw [if_neg Bool.false_ne_true]
    exact read_append_blank inside (read_clause number)

/-- A clause of the text is one of the longer text, unless nothing follows it
and the appended clause takes the same place. -/
theorem LimitAt.append (number : Numeral numeral m) {written : List Char} {n : Int}
    (at_limit : LimitAt before written after n) :
    LimitAt before written (after ++ (" LIMIT ".toList ++ numeral)) n ∨
      Joins (before ++ (written ++ after)) := by
  obtain ⟨last, begins⟩ := at_limit.begins
  have whole : ∀ c ∈ (after ++ (" LIMIT ".toList ++ numeral)).head?, continuesNumber c = false := by
    cases after with
    | nil =>
      intro c member
      cases member
      rfl
    | cons c rest => exact at_limit.whole
  have mode : modeAfter (before ++ (written ++ after)) = lexer.advance .number after := by
    rw [modeAfter, Machine.advance_append, show lexer.advance (.gap none) before = .gap last from begins,
      Machine.advance_append, (at_limit.number.advance last).1]
  have longer := read_number_append number after
  have follows := at_limit.ends
  cases rest : lexer.read .number after with
  | nil =>
    rw [rest, List.nil_append] at longer
    cases inside : (lexer.advance .number after).within with
    | true =>
      rw [inside, if_pos rfl] at longer
      refine .inl ⟨at_limit.begins, at_limit.keyword, at_limit.number, whole, ?_⟩
      intro lexeme member
      rw [longer] at member
      cases member
    | false =>
      refine .inr ⟨mode ▸ inside, ?_⟩
      obtain ⟨front, name, read, -, outer⟩ := at_limit.lexemes_eq
      rw [read, rest, List.append_nil]
      apply outermost_append outer
      exact List.forall_mem_cons.mpr ⟨⟨by simp, by simp, rfl⟩, marks_flat written⟩
  | cons lexeme others =>
    rw [rest] at longer follows
    refine .inl ⟨at_limit.begins, at_limit.keyword, at_limit.number, whole, ?_⟩
    rw [longer]
    exact follows

/-- A number within the text is the one of a clause of the text. -/
theorem LimitAt.of_append (number : Numeral numeral m) {written : List Char} {n : Int}
    (at_limit : LimitAt before written (after ++ (" LIMIT ".toList ++ numeral)) n) :
    LimitAt before written after n where
  begins := at_limit.begins
  keyword := at_limit.keyword
  number := at_limit.number
  whole := by
    cases after with
    | nil =>
      intro c member
      cases member
    | cons c rest => exact at_limit.whole
  ends := by
    have follows := at_limit.ends
    rw [read_number_append number] at follows
    cases rest : lexer.read .number after with
    | nil =>
      intro lexeme member
      cases member
    | cons lexeme others =>
      rw [rest] at follows
      exact follows

/-- The longer text is limited where the text was, or where the clause joins it. -/
theorem carriesLimit_append (number : Numeral numeral rows) :
    CarriesLimit (text ++ (" LIMIT ".toList ++ numeral)) rows ↔ CarriesLimit text rows ∨ Joins text := by
  constructor
  · rintro ⟨before, written, after, n, same, at_limit, bound⟩
    rcases List.append_eq_append_iff.mp same with ⟨front, rfl, split⟩ | ⟨rest, rfl, split⟩
    · exact .inr (at_limit.joins number split)
    left
    rcases List.append_eq_append_iff.mp split with ⟨later, rfl, rfl⟩ | ⟨beyond, rfl, clause⟩
    · exact ⟨before, written, later, n, rfl, at_limit.of_append number, bound⟩
    · cases beyond with
      | nil =>
        obtain rfl := clause
        rw [List.append_nil] at at_limit
        exact ⟨before, rest, [], n, by rw [List.append_nil], LimitAt.of_append number at_limit, bound⟩
      | cons c beyond =>
        have blank : ' ' = c := (List.cons.inj clause).1
        have known := at_limit.number.chars.2 c (List.mem_append_right _ List.mem_cons_self)
        rw [← blank] at known
        cases known
  · rintro (⟨before, written, after, n, rfl, at_limit, bound⟩ | joins)
    · rcases at_limit.append number with at_limit | joins
      · refine ⟨before, written, _, n, ?_, at_limit, bound⟩
        simp only [List.append_assoc]
      · exact joins.carries number
    · exact joins.carries number

end Postgres
