import FlightHub.AI.SelectOnly
import Mathlib.Data.List.TakeWhile

/-! `_strip_code_fence` of `ai/text_to_sql.py`: the SQL of a reply which the model
fences as Markdown against its instructions. The pattern is matched from left to
right, and `^` looks at the character before, also where a match removed it. -/
namespace FlightHub
open Python

def tick : Char := '\x60'

def ticks : List Char := [tick, tick, tick]

def readTicks (text : List Char) : Option (List Char) :=
  if ticks.isPrefixOf text then some (text.drop 3) else none

/-- Behind `(?:sql)?`, ignoring case. -/
def afterTag (text : List Char) : List Char :=
  ((readLetters "sql".toList none text).map Prod.snd).getD text

/-- What follows a match of "^```(?:sql)?\s*", which is for the start of a line. -/
def openingFence (before : Option Char) (text : List Char) : Option (List Char) :=
  if before.all (· = '\n') then (readTicks text).map fun rest => (afterTag rest).dropWhile isSpace
  else none

/-- What follows a match of "\s*```$", which is for the end of a line. -/
def closingFence (text : List Char) : Option (List Char) :=
  (readTicks (text.dropWhile isSpace)).filter fun rest => rest.head?.all (· = '\n')

def fenceAt (before : Option Char) (text : List Char) : Option (List Char) :=
  (openingFence before text).or (closingFence text)

/-- `_CODE_FENCE_PATTERN.sub("", text)`. The first argument counts the characters
of a match which are still to be passed. -/
def removeFences : Nat → Option Char → List Char → List Char
  | _, _, [] => []
  | passed + 1, _, c :: rest => removeFences passed (some c) rest
  | 0, before, c :: rest =>
    match fenceAt before (c :: rest) with
    | some remaining => removeFences (rest.length - remaining.length) (some c) rest
    | none => c :: removeFences 0 (some c) rest

def stripCodeFence (text : List Char) : List Char := strip (removeFences 0 none (strip text))

/-! ### Text without backticks -/

def Plain (text : List Char) : Prop := ∀ c ∈ text, c ≠ tick

section Plain
variable {text body blank rest : List Char} {before : Option Char} {c : Char}

theorem isSpace_tick : isSpace tick = false := by decide

/-- To check the listed characters, not all that there are. -/
theorem forall_listed {p : Char → Prop} [DecidablePred p] (checked : text.all (fun c => p c) = true) :
    ∀ c ∈ text, p c :=
  fun c member => of_decide_eq_true (List.all_eq_true.mp checked c member)

theorem readTicks_of_head (other : ∀ c ∈ text.head?, c ≠ tick) : readTicks text = none := by
  cases text with
  | nil => rfl
  | cons c rest =>
    have differs : c ≠ tick := other c rfl
    simp [readTicks, ticks, Ne.symm differs]

theorem openingFence_of_head (other : ∀ c ∈ text.head?, c ≠ tick) : openingFence before text = none := by
  unfold openingFence
  split
  · rw [readTicks_of_head other, Option.map_none]
  · rfl

/-- Where something other than a fence follows the blanks, no match starts. -/
theorem closingFence_of_head (other : ∀ c ∈ (text.dropWhile isSpace).head?, c ≠ tick) :
    closingFence text = none := by
  rw [closingFence, readTicks_of_head other, Option.filter_none]

theorem Plain.tail (plain : Plain (c :: text)) : Plain text :=
  fun d member => plain d (List.mem_cons_of_mem c member)

theorem Plain.lstrip (plain : Plain text) : Plain (lstrip text) :=
  fun c member => plain c ((List.dropWhile_sublist isSpace).mem member)

theorem Plain.head (plain : Plain text) : ∀ c ∈ text.head?, c ≠ tick :=
  fun c first => plain c (List.mem_of_mem_head? first)

theorem removeFences_plain (plain : Plain text) (before : Option Char) :
    removeFences 0 before text = text := by
  induction text generalizing before with
  | nil => rfl
  | cons c rest ih =>
    have none_here : fenceAt before (c :: rest) = none := by
      rw [fenceAt, openingFence_of_head plain.head, Option.none_or]
      exact closingFence_of_head plain.lstrip.head
    rw [removeFences, none_here, ih plain.tail]

/-- The characters of a match are passed one by one. -/
theorem removeFences_passed (passed : List Char) (before : Option Char) (rest : List Char) :
    removeFences passed.length before (passed ++ rest) =
      removeFences 0 (passed.getLast?.or before) rest := by
  induction passed generalizing before with
  | nil => rfl
  | cons c passed ih =>
    rw [List.length_cons, List.cons_append, removeFences, ih, List.getLast?_cons]
    cases passed.getLast? <;> rfl

theorem removeFences_match {fence : List Char} (nonempty : fence ≠ [])
    (found : fenceAt before (fence ++ rest) = some rest) :
    removeFences 0 before (fence ++ rest) = removeFences 0 fence.getLast? rest := by
  cases fence with
  | nil => exact absurd rfl nonempty
  | cons c fence =>
    rw [List.cons_append] at found
    have length : (fence ++ rest).length - rest.length = fence.length := by
      rw [List.length_append]
      omega
    rw [List.cons_append, removeFences, found]
    simp only [length]
    rw [removeFences_passed, List.getLast?_cons]
    cases fence.getLast? <;> rfl

/-- At the end of the text a fence goes with the blanks before it. -/
theorem removeFences_closing (all : ∀ c ∈ blank, isSpace c = true) (before : Option Char) :
    removeFences 0 before (blank ++ ticks) = [] := by
  have closing : closingFence (blank ++ ticks) = some [] := by
    rw [closingFence, dropWhile_blank all]
    rfl
  have opening : openingFence before (blank ++ ticks) = none ∨
      openingFence before (blank ++ ticks) = some [] := by
    cases blank with
    | cons c blank =>
      refine .inl (openingFence_of_head ?_)
      intro d first
      cases first
      rintro rfl
      exact absurd (all tick List.mem_cons_self) (by decide)
    | nil =>
      unfold openingFence
      split
      · exact .inr rfl
      · exact .inl rfl
  have found : fenceAt before ((blank ++ ticks) ++ []) = some [] := by
    rw [List.append_nil, fenceAt, closing]
    rcases opening with opening | opening <;> rw [opening] <;> rfl
  have removed := removeFences_match (List.append_ne_nil_of_right_ne_nil _ (List.cons_ne_nil _ _)) found
  rw [List.append_nil] at removed
  exact removed.trans rfl

theorem rstripWith_cons {drop : Char → Bool} (kept : ¬ ∀ d ∈ c :: text, drop d = true) :
    rstripWith drop (c :: text) = c :: rstripWith drop text := by
  rw [rstripWith, List.reverse_cons, List.dropWhile_append]
  split
  · next empty =>
    have dropped : ∀ d ∈ text, drop d = true := by
      have empty := List.dropWhile_eq_nil_iff.mp (List.isEmpty_iff.mp empty)
      simpa using empty
    have last : drop c = false := by
      by_contra also
      rw [Bool.not_eq_false] at also
      exact kept (List.forall_mem_cons.mpr ⟨also, dropped⟩)
    rw [List.dropWhile_cons_of_neg (by simp [last]), rstripWith, List.isEmpty_iff.mp empty]
    rfl
  · rw [List.reverse_append, rstripWith]
    rfl

/-- A fence behind the body is removed, with the blanks before it. -/
theorem removeFences_body (plain : Plain body) (before : Option Char) :
    removeFences 0 before (body ++ ticks) = rstripWith isSpace body := by
  induction body generalizing before with
  | nil => exact removeFences_closing (by simp) before
  | cons c rest ih =>
    by_cases all : ∀ d ∈ c :: rest, isSpace d = true
    · rw [removeFences_closing all, ← List.nil_append (c :: rest), rstripWith_blank all]
      rfl
    · have nonempty : (c :: rest).dropWhile isSpace ≠ [] := mt List.dropWhile_eq_nil_iff.mp all
      have none_here : fenceAt before (c :: rest ++ ticks) = none := by
        have opening : openingFence before (c :: rest ++ ticks) = none := openingFence_of_head plain.head
        rw [fenceAt, opening, Option.none_or]
        refine closingFence_of_head ?_
        have head := List.head?_eq_some_head nonempty
        rw [List.dropWhile_append, if_neg (by simpa using nonempty), List.head?_append, head, Option.some_or,
          ← head]
        exact plain.lstrip.head
      rw [List.cons_append] at none_here ⊢
      rw [removeFences, none_here, ih plain.tail, rstripWith_cons all]

theorem strip_of_closed (plain : Plain body) (before : Option Char) :
    strip (removeFences 0 before (body ++ ticks)) = strip body := by
  obtain ⟨after, split, trailing⟩ := exists_rstripWith isSpace body
  rw [removeFences_body plain]
  calc strip (rstripWith isSpace body)
    _ = strip (rstripWith isSpace body ++ after) := (strip_append_blank trailing).symm
    _ = strip body := by rw [← split]

end Plain

/-! ### The tag behind a fence -/

section Tag
variable {text rest blank : List Char} {c : Char}

/-- A character which is no letter of the tag. -/
def Untagged (c : Char) : Prop := ∀ letter ∈ "sql".toList, sameLetter letter c = false

theorem untagged_tick : Untagged tick := forall_listed (by decide)

theorem untagged_of_isSpace (space : isSpace c = true) : Untagged c := by
  intro letter member
  have lower : c.toLower = c := by
    unfold Char.toLower
    split
    · next upper =>
      exfalso
      have least : 65 ≤ c.toNat := UInt32.le_iff_toNat_le.mp upper.1
      have greatest : c.toNat ≤ 90 := UInt32.le_iff_toNat_le.mp upper.2
      simp only [isSpace, Bool.or_eq_true, Bool.and_eq_true, decide_eq_true_eq] at space
      omega
    · rfl
  have others : ∀ d ∈ ['s', 'q', 'l', 'ſ'], isSpace d = false := forall_listed (by decide)
  have letters : letter ∈ ['s', 'q', 'l', 'ſ'] := by
    have within : ∀ d ∈ "sql".toList, d ∈ ['s', 'q', 'l', 'ſ'] := forall_listed (by decide)
    exact within letter member
  have plain : ∀ d ∈ "sql".toList, d ≠ 'i' ∧ d ≠ 'k' := forall_listed (by decide)
  have differs (d : Char) (listed : d ∈ ['s', 'q', 'l', 'ſ']) : c ≠ d := by
    rintro rfl
    rw [others c listed] at space
    cases space
  obtain ⟨no_i, no_k⟩ := plain letter member
  simp [sameLetter, lower, differs letter letters, no_i, no_k, differs 'ſ' (by decide)]

theorem afterTag_append (stops : ∀ c ∈ rest.head?, Untagged c) :
    afterTag (text ++ rest) = afterTag text ++ rest := by
  rw [afterTag, readLetters_append stops, afterTag]
  cases readLetters "sql".toList none text <;> rfl

/-- The tag is the letters, in either case. -/
def IsTag (tag : List Char) : Prop := ∃ last, readLetters "sql".toList none tag = some (last, [])

theorem readLetters_through {letters : List Char} {before last : Option Char}
    (through : readLetters letters before text = some (last, [])) :
    readLetters letters before (text ++ rest) = some (last, rest) := by
  induction letters generalizing before text with
  | nil =>
    cases through
    rfl
  | cons letter letters ih =>
    cases text with
    | nil => cases through
    | cons c text =>
      simp only [List.cons_append, readLetters] at through ⊢
      split at through
      · next same => rw [if_pos same, ih through]
      · cases through

theorem afterTag_tag {tag : List Char} (tagged : IsTag tag) (text : List Char) :
    afterTag (tag ++ text) = text := by
  obtain ⟨last, through⟩ := tagged
  rw [afterTag, readLetters_through through]
  rfl

theorem readLetters_suffix {letters : List Char} {before last : Option Char}
    (read : readLetters letters before text = some (last, rest)) : rest <:+ text := by
  induction letters generalizing before text with
  | nil =>
    cases read
    exact List.suffix_refl _
  | cons letter letters ih =>
    cases text with
    | nil => cases read
    | cons c text =>
      simp only [readLetters] at read
      split at read
      · exact (ih read).trans (List.suffix_cons c text)
      · cases read

theorem afterTag_suffix (text : List Char) : afterTag text <:+ text := by
  unfold afterTag
  cases read : readLetters "sql".toList none text with
  | none => exact List.suffix_refl _
  | some reached => exact readLetters_suffix read

theorem Plain.afterTag (plain : Plain text) : Plain (afterTag text) :=
  fun c member => plain c ((afterTag_suffix text).mem member)

end Tag

/-! ### Replies -/

/-- The fence, where there is one. -/
def fenceIf (present : Bool) : List Char := if present then ticks else []

section Replies
variable {text inner lead trail query tag : List Char}

theorem lstrip_append_ticks (text : List Char) : lstrip (text ++ ticks) = lstrip text ++ ticks := by
  rw [lstrip, List.dropWhile_append]
  split
  · next empty =>
    rw [lstrip, List.isEmpty_iff.mp empty]
    rfl
  · rfl

theorem rstrip_ticks_append (text : List Char) :
    rstripWith isSpace (ticks ++ text) = ticks ++ rstripWith isSpace text := by
  rw [rstripWith, List.reverse_append, List.dropWhile_append]
  split
  · next empty =>
    rw [rstripWith, List.isEmpty_iff.mp empty]
    rfl
  · rw [List.reverse_append, List.reverse_reverse, rstripWith]

theorem strip_lstrip (text : List Char) : strip (lstrip text) = strip text := by
  have split := List.takeWhile_append_dropWhile (p := isSpace) (l := text)
  calc strip (lstrip text)
    _ = strip (text.takeWhile isSpace ++ lstrip text) :=
        (strip_blank_append (List.all_eq_true.mp List.all_takeWhile)).symm
    _ = strip text := congrArg strip split

/-- A fence which opens the text goes with its tag and the blanks behind it. -/
theorem removeFences_opening (text : List Char) : ∃ before,
    removeFences 0 none (ticks ++ text) = removeFences 0 before (lstrip (afterTag text)) := by
  have suffix : lstrip (afterTag text) <:+ text := (List.dropWhile_suffix isSpace).trans (afterTag_suffix text)
  obtain ⟨consumed, split⟩ := suffix
  have found : fenceAt none (ticks ++ text) = some (lstrip (afterTag text)) := rfl
  rw [← split, ← List.append_assoc] at found
  rw [split] at found
  refine ⟨(ticks ++ consumed).getLast?, ?_⟩
  have removed := removeFences_match (List.append_ne_nil_of_left_ne_nil (List.cons_ne_nil _ _) _) found
  rwa [List.append_assoc, split] at removed

theorem strip_removeFences_opened (plain : Plain inner) :
    strip (removeFences 0 none (ticks ++ (inner ++ ticks))) = strip (afterTag inner) := by
  obtain ⟨before, opened⟩ := removeFences_opening (inner ++ ticks)
  have tagged : afterTag (inner ++ ticks) = afterTag inner ++ ticks := by
    refine afterTag_append fun c first => ?_
    cases first
    exact untagged_tick
  rw [opened, tagged, lstrip_append_ticks, strip_of_closed plain.afterTag.lstrip]
  exact strip_lstrip _

theorem strip_removeFences_unclosed (plain : Plain inner) :
    strip (removeFences 0 none (ticks ++ rstripWith isSpace inner)) = strip (afterTag inner) := by
  obtain ⟨after, split, trailing⟩ := exists_rstripWith isSpace inner
  obtain ⟨before, opened⟩ := removeFences_opening (rstripWith isSpace inner)
  have kept : Plain (rstripWith isSpace inner) := by
    intro c member
    refine plain c ?_
    rw [split]
    exact List.mem_append_left _ member
  have tagged : afterTag (rstripWith isSpace inner ++ after) = afterTag (rstripWith isSpace inner) ++ after := by
    refine afterTag_append fun c first => untagged_of_isSpace ?_
    exact trailing c (List.mem_of_mem_head? first)
  rw [opened, removeFences_plain kept.afterTag.lstrip]
  calc strip (lstrip (afterTag (rstripWith isSpace inner)))
    _ = strip (afterTag (rstripWith isSpace inner)) := strip_lstrip _
    _ = strip (afterTag (rstripWith isSpace inner) ++ after) := (strip_append_blank trailing).symm
    _ = strip (afterTag inner) := by rw [← tagged, ← split]

/-- Blanks around a reply, and the fences around its text, are removed; behind an
opening fence the tag is too. -/
theorem stripCodeFence_reply (plain : Plain inner) (leading : ∀ c ∈ lead, isSpace c = true)
    (trailing : ∀ c ∈ trail, isSpace c = true) (opened closed : Bool) :
    stripCodeFence (lead ++ (fenceIf opened ++ (inner ++ (fenceIf closed ++ trail)))) =
      strip (if opened then afterTag inner else inner) := by
  have core : strip (lead ++ (fenceIf opened ++ (inner ++ (fenceIf closed ++ trail)))) =
      strip (fenceIf opened ++ (inner ++ fenceIf closed)) := by
    rw [strip_blank_append leading, ← List.append_assoc inner, ← List.append_assoc (fenceIf opened),
      strip_append_blank trailing]
  rw [stripCodeFence, core]
  cases opened with
  | false =>
    cases closed with
    | false =>
      have kept : Plain (strip inner) := by
        obtain ⟨before, after, split, -⟩ := exists_strip inner
        intro c member
        refine plain c ?_
        rw [split]
        exact List.mem_append_right _ (List.mem_append_left _ member)
      simp only [fenceIf, List.append_nil, List.nil_append, Bool.false_eq_true, if_false]
      rw [removeFences_plain kept, strip_strip]
    | true =>
      have stripped : strip (inner ++ ticks) = lstrip inner ++ ticks := by
        rw [strip, lstrip_append_ticks, rstripWith, List.reverse_append]
        simp [ticks, isSpace_tick]
      simp only [fenceIf, List.nil_append, Bool.false_eq_true, if_false, if_true, stripped]
      rw [strip_of_closed plain.lstrip]
      exact strip_lstrip inner
  | true =>
    cases closed with
    | false =>
      have stripped : strip (ticks ++ inner) = ticks ++ rstripWith isSpace inner := rstrip_ticks_append inner
      simp only [fenceIf, List.append_nil, Bool.false_eq_true, if_false, if_true, stripped]
      exact strip_removeFences_unclosed plain
    | true =>
      have stripped : strip (ticks ++ (inner ++ ticks)) = ticks ++ (inner ++ ticks) := by
        refine (rstrip_ticks_append _).trans ?_
        rw [rstripWith, List.reverse_append]
        simp [ticks, isSpace_tick]
      simp only [fenceIf, if_true, stripped]
      exact strip_removeFences_opened plain

theorem readLetters_through_plain {letters : List Char} {before last : Option Char}
    (others : ∀ letter ∈ letters, sameLetter letter tick = false)
    (through : readLetters letters before text = some (last, [])) : Plain text := by
  induction letters generalizing before text with
  | nil =>
    cases through
    exact fun c member => absurd member List.not_mem_nil
  | cons letter letters ih =>
    cases text with
    | nil => cases through
    | cons c text =>
      simp only [readLetters] at through
      split at through
      · next same =>
        obtain ⟨other, others⟩ := List.forall_mem_cons.mp others
        refine List.forall_mem_cons.mpr ⟨?_, ih others through⟩
        rintro rfl
        rw [other] at same
        cases same
      · cases through

theorem IsTag.plain (tagged : IsTag tag) : Plain tag := by
  obtain ⟨last, through⟩ := tagged
  exact readLetters_through_plain untagged_tick through

/-- What opens the text of a reply: nothing, or a fence with its tag. -/
def opening (tag : Option (List Char)) : List Char := tag.elim [] (ticks ++ ·)

/-- The tag is the letters of the language, or is missing where the query does not
begin with them. -/
def Opens (query tag : List Char) : Prop :=
  IsTag tag ∨ tag = [] ∧ readLetters "sql".toList none query = none

theorem Opens.afterTag (opens : Opens query tag) : afterTag (tag ++ query) = query := by
  rcases opens with tagged | ⟨rfl, other⟩
  · exact afterTag_tag tagged query
  · rw [List.nil_append, FlightHub.afterTag, other]
    rfl

theorem Opens.plain (opens : Opens query tag) (plain : Plain query) : Plain (tag ++ query) := by
  have tagged : Plain tag := by
    rcases opens with tagged | ⟨rfl, -⟩
    · exact tagged.plain
    · exact fun c member => absurd member List.not_mem_nil
  intro c member
  rcases List.mem_append.mp member with first | second
  · exact tagged c first
  · exact plain c second

theorem stripCodeFence_opening {tag : Option (List Char)} (plain : Plain query)
    (opens : ∀ given ∈ tag, Opens query given) (leading : ∀ c ∈ lead, isSpace c = true)
    (trailing : ∀ c ∈ trail, isSpace c = true) (closed : Bool) :
    stripCodeFence (lead ++ (opening tag ++ (query ++ (fenceIf closed ++ trail)))) = strip query := by
  cases tag with
  | none => exact stripCodeFence_reply plain leading trailing false closed
  | some given =>
    have opens := opens given rfl
    have fenced := stripCodeFence_reply (opens.plain plain) leading trailing true closed
    rw [if_pos rfl, opens.afterTag] at fenced
    simpa only [opening, Option.elim_some, List.append_assoc, fenceIf, if_true] using fenced

theorem executedSql_strip (unicode : Unicode) (sqlparse : Sqlparse) (sql : List Char) (rowLimit : Int) :
    executedSql unicode sqlparse (strip sql) rowLimit = executedSql unicode sqlparse sql rowLimit := by
  simp only [executedSql, validateSelectOnly, strip_strip]

end Replies

/-- A query without backticks is executed, or refused, in the same way however the
reply fences it. -/
theorem fences_ignored (unicode : Unicode) (sqlparse : Sqlparse) (rowLimit : Int)
    (lead query trail : List Char) (tag : Option (List Char)) (closed : Bool) (plain : Plain query)
    (opens : ∀ given ∈ tag, Opens query given) (leading : ∀ c ∈ lead, isSpace c = true)
    (trailing : ∀ c ∈ trail, isSpace c = true) :
    executedSql unicode sqlparse
        (stripCodeFence (lead ++ (opening tag ++ (query ++ (fenceIf closed ++ trail))))) rowLimit =
      executedSql unicode sqlparse query rowLimit := by
  rw [stripCodeFence_opening plain opens leading trailing]
  exact executedSql_strip unicode sqlparse query rowLimit

theorem fences_ignored_tagged :
    let reply := " ".toList ++ (opening (some "SQL".toList) ++
      ("\nSELECT COUNT(*) FROM flights\n".toList ++ (fenceIf true ++ "\n".toList)))
    executedSql .ascii (.reading countStatement) (stripCodeFence reply) 200 =
        executedSql .ascii (.reading countStatement) "\nSELECT COUNT(*) FROM flights\n".toList 200 ∧
      executedSql .ascii (.reading countStatement) (stripCodeFence reply) 200 =
        .ok "SELECT COUNT(*) FROM flights LIMIT 200".toList := by
  have plain : Plain "\nSELECT COUNT(*) FROM flights\n".toList := forall_listed (by decide)
  have opens : ∀ given ∈ some "SQL".toList, Opens "\nSELECT COUNT(*) FROM flights\n".toList given := by
    intro given member
    cases member
    exact .inl ⟨some 'L', by decide⟩
  have ignored := fences_ignored .ascii (.reading countStatement) 200 " ".toList
    "\nSELECT COUNT(*) FROM flights\n".toList "\n".toList (some "SQL".toList) true plain opens
    (forall_listed (by decide)) (forall_listed (by decide))
  exact ⟨ignored, ignored.trans (by decide)⟩

end FlightHub
