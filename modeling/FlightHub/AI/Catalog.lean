import FlightHub.AI.SelectOnly
import FlightHub.Postgres.Names

/-! Which identifiers an accepted query can hold. The pattern finds each of its
names wherever one stands in an identifier as a whole word, but the names which
the server reserves for its catalogs and functions are more than the pattern
lists, and `U&"…"` can be written without any of their letters. -/
namespace FlightHub
open Python Postgres

/-- A name of the system catalogs or of a server function, in any case: with the
prefix of PostgreSQL, the information schema, or a function of `dblink`. -/
def reserved (name : List Char) : Bool :=
  let name := name.map Char.toLower
  "pg_".toList.isPrefixOf name || name = "information_schema".toList || name = "dblink".toList ||
    "dblink_".toList.isPrefixOf name

def CatalogFree (text : List Char) : Prop :=
  ∀ identifier, Holds (lexemes text) identifier → identifier.name.any reserved = false

/-- No accepted query holds the identifier, if it is a reserved one. -/
def KeptOut (unicode : Unicode) (sqlparse : Sqlparse) (identifier : Identifier) : Prop :=
  ∀ sql safe, validateSelectOnly unicode sqlparse sql = .ok safe → Holds (lexemes safe) identifier →
    identifier.name.any reserved = false

/-- The package finds one `SELECT` and no forbidden keyword. -/
def Sqlparse.SeesSelect (sqlparse : Sqlparse) (text : List Char) : Prop :=
  ∃ stmt, sqlparse.statements text = .ok [stmt] ∧ stmt.getType = "SELECT" ∧
    ∀ token ∈ stmt.flatten, token.disallowed = false

/-- A query which reads what the identifier names. -/
def selectFrom (identifier : Identifier) : List Char :=
  "SELECT * FROM ".toList ++ (identifier.written ++ ' ' :: "LIMIT 1".toList)

variable {unicode : Unicode} {sqlparse : Sqlparse} {sql safe after text : List Char} {c : Char}
  {first : Option Char}

/-! ### The pattern -/

theorem getLast?_cons_or (c : Char) (text : List Char) (first : Option Char) :
    (c :: text).getLast?.or first = text.getLast?.or (some c) := by
  cases text with
  | nil => rfl
  | cons d text => rw [List.getLast?_cons_cons, List.getLast?_eq_some_getLast (List.cons_ne_nil d text)]; rfl

/-- A match behind a text is one in the whole. -/
theorem search_behind {matchesAt : Option Char → List Char → Bool} (before : List Char)
    (found : search matchesAt (before.getLast?.or first) text = true) :
    search matchesAt first (before ++ text) = true := by
  induction before generalizing first with
  | nil =>
    rw [List.getLast?_nil, Option.none_or] at found
    exact found
  | cons c before ih =>
    rw [List.cons_append, search, Bool.or_eq_true]
    right
    apply ih
    rw [← getLast?_cons_or]
    exact found

theorem isWord_of_breaks (ends : breaks c = true) : unicode.isWord c = false := by
  simp only [breaks, Bool.and_eq_true, decide_eq_true_eq, Bool.not_eq_true'] at ends
  obtain ⟨⟨ascii, alphanumeric⟩, underscore⟩ := ends
  simp [Unicode.isWord, unicode.alnum_ascii c ascii, alphanumeric, underscore]

theorem any_isWord_of_breaks {c : Option Char} (ends : ∀ d ∈ c, breaks d = true) :
    c.any unicode.isWord = false := by
  cases c with
  | none => rfl
  | some d => exact isWord_of_breaks (ends d rfl)

/-- The names of the pattern have more than five letters, and none of these ends a word. -/
theorem forbiddenNames_letters {name : String} (member : name ∈ forbiddenNames) :
    5 < name.toList.length ∧ ∀ letter ∈ name.toList, breaks letter = false := by
  have letters : forbiddenNames.all (fun name => 5 < name.toList.length &&
      name.toList.all fun letter => !breaks letter) = true := by decide
  have known := List.all_eq_true.mp letters name member
  simpa using known

theorem toLower_of_breaks (ends : breaks c = true) : c.toLower = c := by
  unfold Char.toLower
  split
  · next upper =>
    have letter : c.isUpper = true := decide_eq_true upper
    have alphanumeric : c.isAlphanum = (c.isUpper || c.isLower || c.isDigit) := rfl
    simp [breaks, alphanumeric, letter] at ends
  · rfl

/-- A character which ends a word is no letter of a name. -/
theorem sameLetter_breaks {letter : Char} (unbroken : breaks letter = false) (ends : breaks c = true) :
    sameLetter letter c = false := by
  have other {d : Char} (inner : breaks d = false) : c ≠ d := by
    rintro rfl
    rw [ends] at inner
    cases inner
  simp [sameLetter, toLower_of_breaks ends, other unbroken, @other 'ı' rfl, @other 'İ' rfl,
    @other 'ſ' rfl, @other 'K' rfl]

theorem readLetters_length {letters : List Char} {before : Option Char} {read : Option Char × List Char}
    (found : readLetters letters before text = some read) : letters.length ≤ text.length := by
  induction letters generalizing before text with
  | nil => exact Nat.zero_le _
  | cons letter letters ih =>
    cases text with
    | nil => cases found
    | cons c text =>
      rw [readLetters] at found
      split at found
      · exact Nat.succ_le_succ (ih found)
      · cases found

/-- The pattern does not look past a character which ends a word. -/
theorem forbiddenPattern_append (ends : ∀ d ∈ after.head?, breaks d = true) (begun : text ≠ [])
    (before : Option Char) :
    forbiddenPattern unicode before (text ++ after) = forbiddenPattern unicode before text := by
  have edge : after.head?.any unicode.isWord = false := any_isWord_of_breaks ends
  have same : (text ++ after).head? = text.head? := by
    rw [List.head?_append_of_ne_nil _ begun]
  rw [forbiddenPattern, forbiddenPattern, same]
  congr 1
  rw [Bool.eq_iff_iff, List.any_eq_true, List.any_eq_true]
  apply exists_congr
  intro name
  apply and_congr_right
  intro member
  have letters := (forbiddenNames_letters member).2
  have stops : ∀ d ∈ after.head?, ∀ letter ∈ name.toList, sameLetter letter d = false :=
    fun d next letter listed => sameLetter_breaks (letters letter listed) (ends d next)
  rw [readLetters_append stops, Option.any_map]
  have boundaries : (fun read : Option Char × List Char => unicode.boundary read.1 (read.2 ++ after).head?) =
      fun read => unicode.boundary read.1 read.2.head? := by
    funext ⟨last, rest⟩
    cases rest with
    | nil =>
      rw [Unicode.boundary, Unicode.boundary, List.nil_append, edge]
      rfl
    | cons c rest => rfl
  exact Iff.of_eq (congrArg (· = true) (congrArg (Option.any · _) boundaries))

theorem forbiddenPattern_before (before : Option Char) (edge : ∀ d ∈ before, breaks d = true) :
    forbiddenPattern unicode before text = forbiddenPattern unicode none text := by
  rw [forbiddenPattern, forbiddenPattern, Unicode.boundary, any_isWord_of_breaks edge]
  congr 1
  rw [Bool.eq_iff_iff, List.any_eq_true, List.any_eq_true]
  apply exists_congr
  intro name
  apply and_congr_right
  intro member
  have same : readLetters name.toList before text = readLetters name.toList none text := by
    have long := (forbiddenNames_letters member).1
    cases letters : name.toList with
    | nil =>
      rw [letters] at long
      cases long
    | cons letter rest => cases text <;> rfl
  rw [same]

theorem forbiddenPattern_unread (before : Option Char)
    (unread : forbiddenNames.all (fun name => (readLetters name.toList before text).isNone) = true) :
    forbiddenPattern unicode before text = false := by
  rw [forbiddenPattern, Bool.and_eq_false_iff]
  right
  apply List.any_eq_false.mpr
  intro name member found
  have nothing := List.all_eq_true.mp unread name member
  rw [Option.isNone_iff_eq_none.mp nothing] at found
  cases found

theorem forbiddenPattern_short (short : text.length < 6) (before : Option Char) :
    forbiddenPattern unicode before text = false := by
  apply forbiddenPattern_unread before
  apply List.all_eq_true.mpr
  intro name member
  by_contra found
  obtain ⟨read, matched⟩ := Option.ne_none_iff_exists'.mp (mt Option.isNone_iff_eq_none.mpr found)
  have long := (forbiddenNames_letters member).1
  have bound := readLetters_length matched
  omega

theorem forbiddenPattern_breaks (ends : breaks c = true) (before : Option Char) :
    forbiddenPattern unicode before (c :: after) = false := by
  apply forbiddenPattern_unread before
  apply List.all_eq_true.mpr
  intro name member
  obtain ⟨long, letters⟩ := forbiddenNames_letters member
  cases spelled : name.toList with
  | nil =>
    rw [spelled] at long
    cases long
  | cons letter rest =>
    have other := sameLetter_breaks (letters letter (spelled ▸ List.mem_cons_self)) ends
    rw [readLetters, other]
    rfl

theorem search_short (short : text.length < 6) (before : Option Char) :
    search (forbiddenPattern unicode) before text = false := by
  induction text generalizing before with
  | nil => exact forbiddenPattern_short short before
  | cons c text ih =>
    rw [search, forbiddenPattern_short short, ih (Nat.lt_of_succ_lt short), Bool.or_false]

/-- Where the letters of no name are found, the tables of characters do not matter. -/
theorem search_unread (before : Option Char)
    (unread : search (fun before text =>
      !forbiddenNames.all fun name => (readLetters name.toList before text).isNone) before text = false) :
    search (forbiddenPattern unicode) before text = false := by
  induction text generalizing before with
  | nil => exact search_short (by decide) before
  | cons c text ih =>
    obtain ⟨here, later⟩ := (Bool.or_eq_false_iff).mp unread
    rw [search, ih (some c) later, Bool.or_false]
    exact forbiddenPattern_unread before (by simpa using here)

theorem search_before (before : Option Char) (edge : ∀ d ∈ before, breaks d = true) :
    search (forbiddenPattern unicode) before text = search (forbiddenPattern unicode) none text := by
  cases text with
  | nil => exact forbiddenPattern_before before edge
  | cons c text => rw [search, forbiddenPattern_before before edge, search]

/-- The pattern is searched for on either side of a character which ends a word. -/
theorem search_join (ends : breaks c = true) (text : List Char) (before : Option Char) :
    search (forbiddenPattern unicode) before (text ++ c :: after) =
      (search (forbiddenPattern unicode) before text || search (forbiddenPattern unicode) none after) := by
  have edge : ∀ d ∈ (c :: after).head?, breaks d = true := by
    intro d member
    cases member
    exact ends
  induction text generalizing before with
  | nil =>
    have nothing : search (forbiddenPattern unicode) before [] = false := search_short (by decide) before
    rw [List.nil_append, nothing, Bool.false_or, search, forbiddenPattern_breaks ends, Bool.false_or]
    exact search_before (some c) edge
  | cons d text ih =>
    rw [List.cons_append, search, ih, search, ← List.cons_append,
      forbiddenPattern_append edge (List.cons_ne_nil _ _), Bool.or_assoc]

/-! ### Accepted queries -/

/-- The pattern finds nothing in the identifiers of an accepted query. -/
theorem accepted_unlisted (accepted : validateSelectOnly unicode sqlparse sql = .ok safe)
    {identifier : Identifier} (holds : Holds (lexemes safe) identifier) :
    search (forbiddenPattern unicode) none identifier.spelling = false := by
  obtain ⟨-, harmless, returned, -⟩ := validateSelectOnly_ok_iff.mp accepted
  obtain ⟨before, after, split, begins, ends⟩ := holds.stands
  obtain ⟨count, stripped⟩ := query_append sql
  have whole : strip sql = before ++ (identifier.spelling ++ (after ++ List.replicate count ';')) := by
    rw [stripped, show query sql = safe from returned.symm, split]
    simp only [List.append_assoc]
  by_contra found
  have found := Bool.of_not_eq_false found
  have within : search (forbiddenPattern unicode) none (strip sql) = true := by
    rw [whole]
    apply search_behind
    rw [Option.or_none, search_before _ begins]
    cases later : after ++ List.replicate count ';' with
    | nil => rwa [List.append_nil]
    | cons c rest =>
      have edge : breaks c = true := by
        cases after with
        | nil =>
          have member : c ∈ List.replicate count ';' := by
            rw [List.nil_append] at later
            rw [later]
            exact List.mem_cons_self
          obtain rfl := List.eq_of_mem_replicate member
          rfl
        | cons d after =>
          obtain ⟨rfl, -⟩ := List.cons.inj later
          exact ends d rfl
      rw [search_join edge, found, Bool.true_or]
  rw [harmless] at within
  cases within

theorem search_selectFrom (identifier : Identifier) :
    search (forbiddenPattern unicode) none (selectFrom identifier) =
      search (forbiddenPattern unicode) none identifier.spelling := by
  have blank : breaks ' ' = true := rfl
  have doubleQuote : breaks '"' = true := rfl
  have quote : breaks '\'' = true := rfl
  have ampersand : breaks '&' = true := rfl
  have nothing (before : Option Char) : search (forbiddenPattern unicode) before [] = false :=
    search_short (by decide) before
  have select : search (forbiddenPattern unicode) none "SELECT * FROM".toList = false :=
    search_unread none (by decide)
  have limit : search (forbiddenPattern unicode) none "LIMIT 1".toList = false :=
    search_unread none (by decide)
  have uescape : search (forbiddenPattern unicode) none "UESCAPE".toList = false :=
    search_unread none (by decide)
  have begins : selectFrom identifier =
      "SELECT * FROM".toList ++ ' ' :: (identifier.written ++ ' ' :: "LIMIT 1".toList) := rfl
  rw [begins, search_join blank, select, Bool.false_or]
  cases identifier with
  | word name rest starts continues =>
    rw [search_join blank, limit, Bool.or_false]
    rfl
  | quoted name =>
    have written : (Identifier.quoted name).written ++ ' ' :: "LIMIT 1".toList =
        [] ++ '"' :: (doubled name ++ '"' :: ([] ++ ' ' :: "LIMIT 1".toList)) := by
      simp [Identifier.written]
    rw [written, search_join doubleQuote, nothing, search_join doubleQuote, search_join blank, nothing, limit,
      Bool.false_or, Bool.false_or, Bool.or_false]
    rfl
  | unicode escape escaped possible =>
    have written : (Identifier.unicode escape escaped possible).written ++ ' ' :: "LIMIT 1".toList =
        ['U'] ++ '&' :: ([] ++ '"' :: (doubled escaped ++ '"' :: ([] ++ ' ' :: ("UESCAPE".toList ++
          ' ' :: ([] ++ '\'' :: ([escape] ++ '\'' :: ([] ++ ' ' :: "LIMIT 1".toList))))))) := by
      simp [Identifier.written]
    have short (c : Char) : search (forbiddenPattern unicode) none [c] = false := search_short (by simp) none
    rw [written]
    simp only [search_join blank, search_join doubleQuote, search_join quote, search_join ampersand,
      nothing, short, limit, uescape, Bool.false_or, Bool.or_false]
    rfl

theorem rstripWith_concat {drop : Char → Bool} (kept : drop c = false) :
    rstripWith drop (text ++ [c]) = text ++ [c] := by
  rw [rstripWith, List.reverse_append, List.reverse_singleton, List.singleton_append,
    List.dropWhile_cons_of_neg (by simp [kept]), List.reverse_cons, List.reverse_reverse]

theorem strip_selectFrom (identifier : Identifier) :
    strip (selectFrom identifier) = selectFrom identifier ∧
      rstripWith (· = ';') (selectFrom identifier) = selectFrom identifier := by
  have ends : selectFrom identifier = 'S' :: ("ELECT * FROM ".toList ++
      (identifier.written ++ ' ' :: "LIMIT ".toList)) ++ ['1'] := by
    unfold selectFrom
    simp
  rw [ends]
  constructor
  · rw [strip, lstrip, List.cons_append, List.dropWhile_cons_of_neg (by decide), ← List.cons_append]
    exact rstripWith_concat (by decide)
  · exact rstripWith_concat (by decide)

theorem selectFrom_accepted {identifier : Identifier} (sees : sqlparse.SeesSelect (selectFrom identifier))
    (unlisted : search (forbiddenPattern unicode) none identifier.spelling = false) :
    validateSelectOnly unicode sqlparse (selectFrom identifier) = .ok (selectFrom identifier) := by
  obtain ⟨stripped, returned⟩ := strip_selectFrom identifier
  rw [validateSelectOnly_ok_iff, stripped, returned, search_selectFrom]
  refine ⟨?_, unlisted, rfl, sees⟩
  unfold selectFrom
  simp

theorem selectFrom_holds (identifier : Identifier) : Holds (lexemes (selectFrom identifier)) identifier := by
  have begins : modeAfter "SELECT * FROM ".toList = .gap none := by decide
  have ends : ∀ later, contents (lexer.read (.gap later) "LIMIT 1".toList) = [] := by
    intro later
    cases later <;> rfl
  unfold selectFrom
  exact holds_written begins ends

/-- The code keeps an identifier out of the accepted queries exactly when it is not
reserved or one of the names of the pattern stands in its spelling as a whole word. -/
theorem kept_out_iff {identifier : Identifier} (sees : sqlparse.SeesSelect (selectFrom identifier)) :
    KeptOut unicode sqlparse identifier ↔ identifier.name.any reserved = false ∨
      search (forbiddenPattern unicode) none identifier.spelling = true := by
  constructor
  · intro kept
    by_contra open_to
    obtain ⟨catalog, unlisted⟩ := not_or.mp open_to
    have accepted := selectFrom_accepted sees (Bool.eq_false_iff.mpr unlisted)
    exact catalog (kept _ _ accepted (selectFrom_holds identifier))
  · rintro (harmless | found) sql safe accepted holds
    · exact harmless
    · rw [accepted_unlisted accepted holds] at found
      cases found

def escapedClass : Identifier := .unicode '!' "!0070g_class".toList rfl

def escapedStatement : ParsedStatement where
  flatten := [⟨.dml, "SELECT".toList⟩, ⟨.other, [' ']⟩, ⟨.other, ['*']⟩, ⟨.other, [' ']⟩,
    ⟨.keyword, "FROM".toList⟩, ⟨.other, [' ']⟩, ⟨.other, ['U']⟩, ⟨.other, ['&']⟩,
    ⟨.other, "\"!0070g_class\"".toList⟩, ⟨.other, [' ']⟩, ⟨.other, "UESCAPE".toList⟩, ⟨.other, [' ']⟩,
    ⟨.other, "'!'".toList⟩, ⟨.other, [' ']⟩, ⟨.keyword, "LIMIT".toList⟩, ⟨.other, [' ']⟩, ⟨.other, ['1']⟩]
  getType := "SELECT"

def schemaStatement : ParsedStatement where
  flatten := [⟨.dml, "SELECT".toList⟩, ⟨.other, [' ']⟩, ⟨.other, ['*']⟩, ⟨.other, [' ']⟩,
    ⟨.keyword, "FROM".toList⟩, ⟨.other, [' ']⟩, ⟨.other, "\"information_schema\"".toList⟩, ⟨.other, [' ']⟩,
    ⟨.keyword, "LIMIT".toList⟩, ⟨.other, [' ']⟩, ⟨.other, ['1']⟩]
  getType := "SELECT"

theorem Sqlparse.reading_sees {stmt : ParsedStatement} (nonblank : (strip stmt.str).isEmpty = false)
    (type : stmt.getType = "SELECT") (allowed : stmt.flatten.find? Token.disallowed = none) :
    (reading stmt).SeesSelect stmt.str := by
  refine ⟨stmt, reading_statements nonblank, type, ?_⟩
  simpa using allowed

/-- A listed name between quotes is kept out; another one, behind escapes, is not. -/
theorem kept_out_iff_quoted :
    KeptOut .ascii (.reading schemaStatement) (.quoted "information_schema".toList) ∧
      ¬KeptOut .ascii (.reading escapedStatement) escapedClass := by
  have schema : schemaStatement.str = selectFrom (.quoted "information_schema".toList) := by decide
  have escaped : escapedStatement.str = selectFrom escapedClass := by decide
  constructor
  · apply (kept_out_iff (schema ▸ Sqlparse.reading_sees (by decide) rfl (by decide))).mpr
    exact .inr (by decide)
  · apply (kept_out_iff (escaped ▸ Sqlparse.reading_sees (by decide) rfl (by decide))).not.mpr
    decide

def pgClassStatement : ParsedStatement where
  flatten := [⟨.dml, "SELECT".toList⟩, ⟨.other, [' ']⟩, ⟨.other, ['*']⟩, ⟨.other, [' ']⟩,
    ⟨.keyword, "FROM".toList⟩, ⟨.other, [' ']⟩, ⟨.other, "pg_class".toList⟩]
  getType := "SELECT"

/-- A relation of the catalog needs no schema, and an underscore is part of the word. -/
theorem catalog_relation_accepted :
    ¬ ∀ unicode sqlparse sql safe, validateSelectOnly unicode sqlparse sql = .ok safe →
      CatalogFree safe := by
  intro free
  have accepted : validateSelectOnly .ascii (.reading pgClassStatement)
      "SELECT * FROM pg_class".toList = .ok "SELECT * FROM pg_class".toList := by decide
  have letters : "g_class".toList.all identCont = true := by decide
  have member : Lexeme.word ('p' :: "g_class".toList) ∈ lexemes "SELECT * FROM pg_class".toList := by decide
  have holds : Holds (lexemes "SELECT * FROM pg_class".toList)
      (.word 'p' "g_class".toList rfl (List.all_eq_true.mp letters)) := .word member
  have catalog : (some "pg_class".toList).any reserved = true := by decide
  exact Bool.false_ne_true ((free _ _ _ _ accepted _ holds).symm.trans catalog)

end FlightHub
