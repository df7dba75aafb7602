import FlightHub.Postgres.Lexer

/-! The identifiers of a text. Each stands in the text as it is spelled, between
characters which cannot continue an ASCII word. -/
namespace Postgres
open Lexical

/-- An ASCII character which is neither alphanumeric nor an underscore. -/
def breaks (c : Char) : Bool := c.toNat < 128 && !c.isAlphanum && c ≠ '_'

/-- The text does not end within a word. -/
def Edge (text : List Char) : Prop := ∀ c ∈ text.getLast?, breaks c = true

/-- The spelling occurs in the text as a whole word. -/
def Stands (text spelling : List Char) : Prop :=
  ∃ before after, text = before ++ (spelling ++ after) ∧ Edge before ∧
    ∀ c ∈ after.head?, breaks c = true

/-- What stands between the quotes of a quoted identifier. -/
def doubled (name : List Char) : List Char := name.flatMap fun c => if c = '"' then ['"', '"'] else [c]

/-- How an identifier is written, without the quotes around it. -/
def Lexeme.spelling : Lexeme → Option (List Char)
  | .word name => some name
  | .quoted _ name => some (doubled name)
  | _ => none

/-- Where the lexer may begin a word or has begun one. -/
def Mode.Placed (text : List Char) : Mode → Prop
  | .gap _ | .dash _ | .slash | .literalQuote _ _ => Edge text
  | .word name | .dollar name => ∃ before, text = before ++ name.reverse ∧ Edge before
  | .unicodePrefix name => ∃ before, text = before ++ (name.reverse ++ ['&']) ∧ Edge before
  | .quoted _ name => ∃ before, text = before ++ doubled name.reverse ∧ Edge before
  | .quotedQuote _ name => Edge text ∧
      ∃ before, text = before ++ (doubled name.reverse ++ ['"']) ∧ Edge before
  | _ => True

/-- The identifiers among some lexemes stand in the text. -/
def NamesStand (text : List Char) (lexemes : List Lexeme) : Prop :=
  ∀ lexeme ∈ lexemes, ∀ spelling, lexeme.spelling = some spelling → Stands text spelling

variable {text rest : List Char} {mode : Mode} {c : Char}

theorem edge_concat (ends : breaks c = true) : Edge (text ++ [c]) := by
  intro d member
  rw [List.getLast?_concat, Option.mem_some_iff] at member
  exact member ▸ ends

theorem breaks_of_not_identCont (other : identCont c = false) : breaks c = true := by
  simp only [identCont, identStart, Bool.or_eq_false_iff, decide_eq_false_iff_not] at other
  simp [breaks, Char.isAlphanum, other]
  omega

theorem breaks_of_space (blank : isSpace c = true) : breaks c = true := by
  simp only [isSpace, List.mem_cons, List.not_mem_nil, or_false, decide_eq_true_eq] at blank
  rcases blank with rfl | rfl | rfl | rfl | rfl | rfl <;> rfl

theorem breaks_of_newline (newline : isNewline c = true) : breaks c = true := by
  simp only [isNewline, Bool.or_eq_true, decide_eq_true_eq] at newline
  rcases newline with rfl | rfl <;> rfl

theorem names_append {first second : List Lexeme} (left : NamesStand text first)
    (right : NamesStand text second) : NamesStand text (first ++ second) := by
  intro lexeme member
  exact (List.mem_append.mp member).elim (left lexeme) (right lexeme)

theorem nameless {lexemes : List Lexeme} (none_named : ∀ lexeme ∈ lexemes, lexeme.spelling = none) :
    NamesStand text lexemes := by
  intro lexeme member name named
  rw [none_named lexeme member] at named
  cases named

theorem start_placed (last : Option Closed) (edge : identStart c = true → Edge text) :
    (start last c).1.Placed (text ++ [c]) ∧ ∀ lexeme ∈ (start last c).2, lexeme.spelling = none := by
  unfold start
  split
  · next blank => exact ⟨edge_concat (breaks_of_space blank), by simp⟩
  split
  · split <;> exact ⟨trivial, by simp [Lexeme.spelling]⟩
  split
  · next quote =>
    refine ⟨⟨_, (List.append_nil _).symm, edge_concat (by rw [quote]; rfl)⟩, ?_⟩
    simp [Lexeme.spelling]
  split
  · next dash => exact ⟨edge_concat (by rw [dash]; rfl), by simp⟩
  split
  · next slash => exact ⟨edge_concat (by rw [slash]; rfl), by simp⟩
  split
  · next dollar =>
    exact ⟨⟨_, (List.append_nil _).symm, edge_concat (by rw [dollar]; rfl)⟩, by simp⟩
  split
  · next begins => exact ⟨⟨text, rfl, edge begins⟩, by simp⟩
  split
  · exact ⟨trivial, by simp [Lexeme.spelling]⟩
  · next blank quote doubleQuote dash slash dollar begins digit =>
    refine ⟨edge_concat ?_, by simp [Lexeme.spelling]⟩
    apply breaks_of_not_identCont
    simp [identCont, begins, digit, dollar]

/-- A word is being read, and no character has ended it. -/
def Mode.reading : Mode → Bool
  | .word _ | .dollar (_ :: _) => true
  | _ => false

theorem stands_alone {lexeme : Lexeme} {name before after : List Char} (edge : Edge before)
    (spelled : lexeme.spelling = some name) (ends : ∀ d ∈ after.head?, breaks d = true)
    (split : text = before ++ (name ++ after)) : NamesStand text [lexeme] := by
  intro other member own named
  rw [List.mem_singleton.mp member, spelled] at named
  obtain rfl := Option.some.inj named
  exact ⟨before, after, split, edge, ends⟩

/-- The names which the end of a lexeme completes stand in the text. -/
theorem finish_names (placed : mode.Placed text)
    (ends : mode.reading = true → ∀ d ∈ rest.head?, breaks d = true) :
    NamesStand (text ++ rest) (finish mode) := by
  cases mode with
  | word name =>
    obtain ⟨before, rfl, edge⟩ := placed
    exact stands_alone edge rfl (ends rfl) (List.append_assoc _ _ _)
  | dollar tag =>
    cases tag with
    | nil => exact nameless (by simp [finish, Lexeme.spelling])
    | cons c tag =>
      obtain ⟨before, rfl, edge⟩ := placed
      have symbol : NamesStand (before ++ (c :: tag).reverse ++ rest) [.symbol '$'] :=
        nameless (by simp [Lexeme.spelling])
      exact names_append symbol (stands_alone edge rfl (ends rfl) (List.append_assoc _ _ _))
  | unicodePrefix name =>
    obtain ⟨before, rfl, edge⟩ := placed
    have ampersand : ∀ d ∈ ('&' :: rest).head?, breaks d = true := by
      intro d member
      cases member
      rfl
    have word : NamesStand (before ++ (name.reverse ++ ['&']) ++ rest) [.word name.reverse] :=
      stands_alone edge rfl ampersand (by simp)
    exact names_append word (nameless (by simp [Lexeme.spelling]))
  | quotedQuote unicode name =>
    obtain ⟨before, rfl, edge⟩ := placed.2
    have quote : ∀ d ∈ ('"' :: rest).head?, breaks d = true := by
      intro d member
      cases member
      rfl
    exact stands_alone edge rfl quote (by simp)
  | _ => exact nameless (by simp [finish, Lexeme.spelling])

theorem complete_placed (placed : mode.Placed text) (last : Option Closed)
    (edge : identStart c = true → Edge text) (ends : mode.reading = true → breaks c = true) :
    (complete mode last c).1.Placed (text ++ [c]) ∧
      ∀ more, NamesStand (text ++ c :: more) (complete mode last c).2 := by
  obtain ⟨begun, none_named⟩ := start_placed last edge
  refine ⟨begun, fun more => names_append (finish_names placed ?_) (nameless none_named)⟩
  intro reading d member
  cases member
  exact ends reading

/-- Every lexeme begins and ends where its name stands. -/
theorem step_placed (placed : mode.Placed text) (c : Char) :
    (step mode c).1.Placed (text ++ [c]) ∧ ∀ more, NamesStand (text ++ c :: more) (step mode c).2 := by
  have silent {mode : Mode} {lexemes : List Lexeme} (placed : mode.Placed (text ++ [c]))
      (none_named : ∀ lexeme ∈ lexemes, lexeme.spelling = none) :
      (mode, lexemes).1.Placed (text ++ [c]) ∧
        ∀ more, NamesStand (text ++ c :: more) (mode, lexemes).2 :=
    ⟨placed, fun _ => nameless none_named⟩
  cases mode with
  | gap last =>
    obtain ⟨begun, none_named⟩ := start_placed (c := c) last fun _ => placed
    exact ⟨begun, fun _ => nameless none_named⟩
  | word name =>
    simp only [step]
    split
    · obtain ⟨before, rfl, edge⟩ := placed
      exact silent ⟨before, by simp, edge⟩ (by simp)
    next other =>
    split
    · exact silent trivial (by simp [Lexeme.spelling])
    split
    · next ampersand =>
      obtain ⟨before, rfl, edge⟩ := placed
      exact silent ⟨before, by simp [ampersand.1], edge⟩ (by simp)
    · have outside := Bool.eq_false_iff.mpr other
      refine complete_placed placed none (fun begins => ?_) fun _ => breaks_of_not_identCont outside
      simp [identCont, begins] at outside
  | number | parameter =>
    simp only [step]
    split
    · exact silent trivial (by simp)
    · next other =>
      refine complete_placed placed none (fun begins => ?_) (fun reading => by cases reading)
      simp [begins] at other
  | dash last | slash =>
    simp only [step]
    split
    · exact silent trivial (by simp)
    · exact complete_placed placed none (fun _ => placed) (fun reading => by cases reading)
  | dollar tag =>
    simp only [step]
    split
    · exact silent trivial (by simp [Lexeme.spelling])
    next dollar =>
    split
    · obtain ⟨before, rfl, edge⟩ := placed
      exact silent ⟨before, by simp, edge⟩ (by simp)
    next tagged =>
    split
    · exact silent trivial (by simp [Lexeme.spelling])
    next digit =>
    split
    · exact silent trivial (by simp [Lexeme.spelling])
    · have outside : identStart c = false ∧ c.isDigit = false := by simpa [digit] using tagged
      have ends : breaks c = true := by
        apply breaks_of_not_identCont
        simp [identCont, outside, dollar]
      refine complete_placed placed none (fun begins => ?_) fun _ => ends
      rw [outside.1] at begins
      cases begins
  | literal escapes text =>
    simp only [step]
    split
    · next quote => exact silent (edge_concat (by rw [quote]; rfl)) (by simp)
    · split <;> exact silent trivial (by simp)
  | escaped text => exact silent trivial (by simp)
  | literalQuote escapes text =>
    simp only [step]
    split
    · exact silent trivial (by simp)
    · exact complete_placed placed _ (fun _ => placed) (fun reading => by cases reading)
  | unicodePrefix name =>
    simp only [step]
    split
    · next quote =>
      refine silent ?_ (by simp [Lexeme.spelling])
      exact ⟨_, (List.append_nil _).symm, edge_concat (by rw [quote]; rfl)⟩
    split
    · exact silent trivial (by simp [Lexeme.spelling])
    · refine complete_placed placed none (fun _ => ?_) (fun reading => by cases reading)
      obtain ⟨before, rfl, edge⟩ := placed
      rw [← List.append_assoc]
      exact edge_concat rfl
  | quoted unicode name =>
    obtain ⟨before, rfl, edge⟩ := placed
    simp only [step]
    split
    · next quote =>
      refine silent ⟨edge_concat (by rw [quote]; rfl), before, ?_, edge⟩ (by simp)
      rw [quote, List.append_assoc]
    · next inner => exact silent ⟨before, by simp [doubled, inner], edge⟩ (by simp)
  | quotedQuote unicode name =>
    simp only [step]
    split
    · next quote =>
      obtain ⟨before, rfl, edge⟩ := placed.2
      exact silent ⟨before, by simp [doubled, quote], edge⟩ (by simp)
    · exact complete_placed placed none (fun _ => placed.1) (fun reading => by cases reading)
  | lineComment last =>
    simp only [step]
    split
    · next newline => exact silent (edge_concat (breaks_of_newline newline)) (by simp)
    · exact silent trivial (by simp)
  | blockComment depth previous =>
    simp only [step]
    split
    · next closes =>
      cases depth with
      | zero => exact silent (edge_concat (by rw [closes.2]; rfl)) (by simp)
      | succ depth => exact silent trivial (by simp)
    · split <;> exact silent trivial (by simp)
  | dollarQuote tag text sinceDollar =>
    simp only [step]
    split
    · next dollar =>
      split
      · exact silent (edge_concat (by rw [dollar]; rfl)) (by simp [Lexeme.spelling])
      · exact silent trivial (by simp)
    · exact silent trivial (by simp)

theorem read_names (placed : mode.Placed text) (input : List Char) :
    NamesStand (text ++ input) (lexer.read mode input) := by
  induction input generalizing mode text with
  | nil =>
    have ended := @finish_names text [] mode placed fun _ _ member => by cases member
    exact ended
  | cons c rest ih =>
    obtain ⟨moved, emitted⟩ := step_placed placed c
    rw [Machine.read_cons]
    apply names_append (emitted rest)
    have later := ih moved
    rw [List.append_assoc, List.singleton_append] at later
    exact later

/-- An identifier stands in the text as a whole word. -/
theorem names_stand (text : List Char) : NamesStand text (lexemes text) := by
  have nothing : Edge [] := fun c member => by cases member
  exact @read_names [] (.gap none) nothing text

/-! ### Identifiers -/

def hexDigit (c : Char) : Option Nat :=
  if c.isDigit then some (c.toNat - '0'.toNat)
  else if 'a' ≤ c.toLower ∧ c.toLower ≤ 'f' then some (c.toLower.toNat - 'a'.toNat + 10)
  else none

/-- Where the reading of `U&"…"` stands: outside an escape, behind the escape
character, or with `left` hexadecimal digits to come. -/
inductive Escape where
  | outside
  | begun
  | digits (left value : Nat)

/-- The name of an identifier `U&"…"`. The halves of a surrogate pair are read
one by one. -/
def unescape (escape : Char) : Escape → List Char → Option (List Char)
  | .outside, [] => some []
  | _, [] => none
  | .outside, c :: rest =>
    if c = escape then unescape escape .begun rest
    else (unescape escape .outside rest).map (c :: ·)
  | .begun, c :: rest =>
    if c = escape then (unescape escape .outside rest).map (c :: ·)
    else if c = '+' then unescape escape (.digits 6 0) rest
    else (hexDigit c).bind fun value => unescape escape (.digits 3 value) rest
  | .digits left value, c :: rest =>
    (hexDigit c).bind fun digit =>
      if left ≤ 1 then
        (unescape escape .outside rest).map (Char.ofNat (16 * value + digit) :: ·)
      else unescape escape (.digits (left - 1) (16 * value + digit)) rest

example : unescape '\\' .outside "\\0070g_\\+00006Cs\\\\".toList = some "pg_ls\\".toList := by decide

/-- What can stand behind `UESCAPE`. -/
def namesEscape (c : Char) : Bool :=
  c.toNat < 128 && (hexDigit c).isNone && c ∉ ['+', '\'', '"'] && !isSpace c

/-- An identifier as it is written: a word, `"…"` or `U&"…"` with its escape character. -/
inductive Identifier where
  | word (first : Char) (rest : List Char) (starts : identStart first = true)
      (continues : ∀ c ∈ rest, identCont c = true)
  | quoted (name : List Char)
  | unicode (escape : Char) (escaped : List Char) (possible : namesEscape escape = true)

def Identifier.name : Identifier → Option (List Char)
  | .word first rest _ _ => some (first :: rest)
  | .quoted name => some name
  | .unicode escape escaped _ => unescape escape .outside escaped

/-- The identifier without the quotes around it. -/
def Identifier.spelling : Identifier → List Char
  | .word first rest _ _ => first :: rest
  | .quoted name => doubled name
  | .unicode _ escaped _ => doubled escaped

def Identifier.written : Identifier → List Char
  | .word first rest _ _ => first :: rest
  | .quoted name => '"' :: (doubled name ++ ['"'])
  | .unicode escape escaped _ =>
    "U&\"".toList ++ (doubled escaped ++ '"' :: (" UESCAPE '".toList ++ [escape, '\'']))

def codePoint (base : Nat) (digits : List Char) : Option Nat :=
  digits.foldlM (fun value c =>
    (hexDigit c).bind fun digit => if digit < base then some (base * value + digit) else none) 0

/-- The only character of `E'\…'`, without the backslash. -/
def escapedCharacter : List Char → Option Char
  | 'b' :: [] => some '\x08'
  | 'f' :: [] => some '\x0c'
  | 'n' :: [] => some '\n'
  | 'r' :: [] => some '\r'
  | 't' :: [] => some '\t'
  | 'v' :: [] => some '\x0b'
  | 'x' :: [] => some 'x'
  | 'x' :: digits => if digits.length ≤ 2 then (codePoint 16 digits).map Char.ofNat else none
  | 'u' :: digits => if digits.length = 4 then (codePoint 16 digits).map Char.ofNat else none
  | 'U' :: digits => if digits.length = 8 then (codePoint 16 digits).map Char.ofNat else none
  | c :: digits =>
    if c.isDigit && c < '8' then
      if digits.length ≤ 2 then (codePoint 8 (c :: digits)).map fun byte => Char.ofNat (byte % 256)
      else none
    else if digits = [] then some c else none
  | [] => none

/-- The only character of a literal. -/
def soleCharacter (escapes : Bool) : List Char → Option Char
  | c :: [] => some c
  | '\\' :: rest => if escapes then escapedCharacter rest else none
  | _ => none

/-- What the further parts of a literal add to it. -/
def contents : List Lexeme → List Char
  | .content _ text :: rest => text ++ contents rest
  | _ => []

/-- The escape character of an identifier `U&"…"`, by what follows it. The server
refuses a `UESCAPE` which names none. -/
def escapeBehind : List Lexeme → Option Char
  | .word name :: rest =>
    if keyword name = "UESCAPE".toList then
      match rest with
      | .literal :: .content escapes text :: rest =>
        (soleCharacter escapes (text ++ contents rest)).filter namesEscape
      | _ => none
    else some '\\'
  | _ => some '\\'

/-- The identifier is one of the text with these lexemes. -/
inductive Holds (lexemes : List Lexeme) : Identifier → Prop where
  | word {first : Char} {rest : List Char} {starts : identStart first = true}
      {continues : ∀ c ∈ rest, identCont c = true} (member : .word (first :: rest) ∈ lexemes) :
      Holds lexemes (.word first rest starts continues)
  | quoted {name : List Char} (member : .quoted false name ∈ lexemes) : Holds lexemes (.quoted name)
  | unicode {before after : List Lexeme} {escape : Char} {escaped : List Char}
      {possible : namesEscape escape = true} (placed : lexemes = before ++ .quoted true escaped :: after)
      (escapes : escapeBehind after = some escape) : Holds lexemes (.unicode escape escaped possible)

variable {lexemes : List Lexeme} {identifier : Identifier}

theorem Holds.exists_lexeme (holds : Holds lexemes identifier) :
    ∃ lexeme ∈ lexemes, lexeme.spelling = some identifier.spelling := by
  cases holds with
  | word member => exact ⟨_, member, rfl⟩
  | quoted member => exact ⟨_, member, rfl⟩
  | unicode placed _ =>
    rw [placed]
    exact ⟨_, List.mem_append_right _ List.mem_cons_self, rfl⟩

theorem Holds.stands (holds : Holds (Postgres.lexemes text) identifier) :
    Stands text identifier.spelling := by
  obtain ⟨lexeme, member, spelled⟩ := holds.exists_lexeme
  exact names_stand text lexeme member _ spelled

/-! ### An identifier where it is read -/

theorem unbroken_of_identStart (begins : identStart c = true) : breaks c = false := by
  by_contra ends
  simp only [breaks, Bool.not_eq_false, Bool.and_eq_true, decide_eq_true_eq, Bool.not_eq_true',
    Char.isAlphanum, Bool.or_eq_false_iff] at ends
  obtain ⟨⟨ascii, letter, -⟩, underscore⟩ := ends
  have high : ¬128 ≤ c.toNat := by omega
  simp [identStart, letter, underscore, high] at begins

theorem start_word (begins : identStart c = true) (last : Option Closed) :
    start last c = (.word [c], []) := by
  have unbroken := unbroken_of_identStart begins
  have other {d : Char} (ends : breaks d = true) : c ≠ d := by
    rintro rfl
    rw [unbroken] at ends
    cases ends
  have dense : isSpace c = false := by
    by_contra blank
    exact Bool.false_ne_true (unbroken ▸ breaks_of_space (Bool.of_not_eq_false blank))
  simp [start, dense, begins, @other '\'' rfl, @other '"' rfl, @other '-' rfl, @other '/' rfl,
    @other '$' rfl]

theorem advance_word (read : List Char) (continues : ∀ c ∈ rest, identCont c = true) :
    lexer.advance (.word read) rest = .word (rest.reverse ++ read) ∧
      lexer.emitted (.word read) rest = [] := by
  induction rest generalizing read with
  | nil => exact ⟨rfl, rfl⟩
  | cons c rest ih =>
    obtain ⟨first, others⟩ := List.forall_mem_cons.mp continues
    have moved : lexer.step (.word read) c = (.word (c :: read), []) := if_pos first
    obtain ⟨mode, silent⟩ := ih (c :: read) others
    simp [Machine.advance, Machine.emitted, moved, mode, silent]

theorem advance_doubled (unicode : Bool) (read name : List Char) :
    lexer.advance (.quoted unicode read) (doubled name) = .quoted unicode (name.reverse ++ read) ∧
      lexer.emitted (.quoted unicode read) (doubled name) = [] := by
  induction name generalizing read with
  | nil => exact ⟨rfl, rfl⟩
  | cons c name ih =>
    have first : lexer.advance (.quoted unicode read) (if c = '"' then ['"', '"'] else [c]) =
          .quoted unicode (c :: read) ∧
        lexer.emitted (.quoted unicode read) (if c = '"' then ['"', '"'] else [c]) = [] := by
      split
      · next quote =>
        subst quote
        exact ⟨rfl, rfl⟩
      · next inner =>
        have moved : lexer.step (.quoted unicode read) c = (.quoted unicode (c :: read), []) :=
          if_neg inner
        simp [Machine.advance, Machine.emitted, moved]
    obtain ⟨mode, silent⟩ := ih (c :: read)
    have split : doubled (c :: name) = (if c = '"' then ['"', '"'] else [c]) ++ doubled name := rfl
    rw [split, Machine.advance_append, Machine.emitted_append, first.1, first.2, mode, silent]
    simp

/-- A blank completes what was read before it. -/
theorem read_blank {mode : Mode} (outside : (lexer.advance mode text).within = false) (after : List Char) :
    ∃ last, lexer.read mode (text ++ ' ' :: after) =
      lexer.emitted mode text ++ (finish (lexer.advance mode text) ++ lexer.read (.gap last) after) := by
  obtain ⟨last, moved⟩ := step_blank outside
  refine ⟨last, ?_⟩
  rw [Machine.read_append, Machine.read_cons]
  change _ ++ ((step (lexer.advance mode text) ' ').2 ++
    lexer.read (step (lexer.advance mode text) ' ').1 after) = _
  rw [moved]

theorem advance_quoted (unicode : Bool) (name : List Char) :
    lexer.advance (.quoted unicode []) (doubled name ++ ['"']) = .quotedQuote unicode name.reverse ∧
      lexer.emitted (.quoted unicode []) (doubled name ++ ['"']) = [] := by
  obtain ⟨mode, silent⟩ := advance_doubled unicode [] name
  have closed : lexer.step (.quoted unicode name.reverse) '"' = (.quotedQuote unicode name.reverse, []) :=
    rfl
  rw [List.append_nil] at mode
  simp [Machine.advance_append, Machine.emitted_append, mode, silent, Machine.advance, Machine.emitted,
    closed]

theorem advance_uescape {escape : Char} (possible : namesEscape escape = true) (unicode : Bool)
    (name : List Char) :
    lexer.advance (.quotedQuote unicode name) (" UESCAPE '".toList ++ [escape, '\'']) =
        .literalQuote false [escape] ∧
      lexer.emitted (.quotedQuote unicode name) (" UESCAPE '".toList ++ [escape, '\'']) =
        [.quoted unicode name.reverse, .word "UESCAPE".toList, .literal] := by
  have other : escape ≠ '\'' := by
    rintro rfl
    cases possible
  have keyword : lexer.advance (.quotedQuote unicode name) " UESCAPE '".toList = .literal false [] := rfl
  have emitted : lexer.emitted (.quotedQuote unicode name) " UESCAPE '".toList =
      [.quoted unicode name.reverse, .word "UESCAPE".toList, .literal] := rfl
  have moved : lexer.step (.literal false []) escape = (.literal false [escape], []) := by
    simp [lexer, step, other]
  have closed : lexer.step (.literal false [escape]) '\'' = (.literalQuote false [escape], []) := rfl
  rw [Machine.advance_append, Machine.emitted_append, keyword, emitted]
  simp [Machine.advance, Machine.emitted, moved, closed]

/-- A text in which an identifier is written, before a blank, holds it. -/
theorem holds_written {before after : List Char} {last : Option Closed}
    (begins : modeAfter before = .gap last)
    (ends : ∀ later, contents (lexer.read (.gap later) after) = []) :
    Holds (Postgres.lexemes (before ++ (identifier.written ++ ' ' :: after))) identifier := by
  rw [lexemes_append_gap begins]
  cases identifier with
  | word first others starts continues =>
    obtain ⟨mode, -⟩ := advance_word [first] continues
    have moved : lexer.step (.gap last) first = (.word [first], []) := start_word starts last
    have word : lexer.advance (.gap last) (first :: others) = .word (first :: others).reverse := by
      simp [Machine.advance, moved, mode]
    obtain ⟨later, read⟩ := read_blank (by rw [word]; rfl) after
    apply Holds.word
    rw [Identifier.written, read, word]
    simp [finish]
  | quoted name =>
    obtain ⟨mode, -⟩ := advance_quoted false name
    have quote : lexer.step (.gap last) '"' = (.quoted false [], [.quote]) := rfl
    have closed : lexer.advance (.gap last) ('"' :: (doubled name ++ ['"'])) =
        .quotedQuote false name.reverse := by
      rw [Machine.advance, quote, mode]
    obtain ⟨later, read⟩ := read_blank (by rw [closed]; rfl) after
    apply Holds.quoted
    rw [Identifier.written, read, closed]
    simp [finish]
  | unicode escape escaped possible =>
    obtain ⟨mode, silent⟩ := advance_quoted true escaped
    obtain ⟨named, emitted⟩ := advance_uescape possible true escaped.reverse
    have opened : lexer.advance (.gap last) "U&\"".toList = .quoted true [] := by cases last <;> rfl
    have announced : lexer.emitted (.gap last) "U&\"".toList = [.quote] := by cases last <;> rfl
    have split : (Identifier.unicode escape escaped possible).written = "U&\"".toList ++
        ((doubled escaped ++ ['"']) ++ (" UESCAPE '".toList ++ [escape, '\''])) := by
      simp [Identifier.written]
    have closed : lexer.advance (.gap last) (Identifier.unicode escape escaped possible).written =
        .literalQuote false [escape] := by
      rw [split, Machine.advance_append, opened, Machine.advance_append, mode, named]
    have quoted : lexer.emitted (.gap last) (Identifier.unicode escape escaped possible).written =
        .quote :: .quoted true escaped :: [.word "UESCAPE".toList, .literal] := by
      rw [split, Machine.emitted_append, opened, announced, Machine.emitted_append, mode, silent, emitted,
        List.reverse_reverse]
      rfl
    obtain ⟨later, read⟩ := read_blank (by rw [closed]; rfl) after
    rw [read, closed, quoted]
    refine Holds.unicode (List.append_assoc _ [Lexeme.quote] _).symm ?_
    change ((soleCharacter false ([escape] ++ contents (lexer.read (.gap later) after))).filter namesEscape) = _
    rw [ends later]
    simp [soleCharacter, possible]

end Postgres
