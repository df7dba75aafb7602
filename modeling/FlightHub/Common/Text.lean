import FlightHub.Common.Python

/-! Python's `str` and `re` as far as the services use them. -/
namespace FlightHub.Python

variable {text blank : List Char}

theorem dropWhile_blank {drop : Char → Bool} (all : ∀ c ∈ blank, drop c = true) :
    (blank ++ text).dropWhile drop = text.dropWhile drop :=
  List.dropWhile_append_of_pos all

theorem rstripWith_blank {drop : Char → Bool} (all : ∀ c ∈ blank, drop c = true) :
    rstripWith drop (text ++ blank) = rstripWith drop text := by
  rw [rstripWith, List.reverse_append, dropWhile_blank (by simpa using all), rstripWith]

theorem exists_rstripWith (drop : Char → Bool) (text : List Char) :
    ∃ blank, text = rstripWith drop text ++ blank ∧ ∀ c ∈ blank, drop c = true := by
  refine ⟨(text.reverse.takeWhile drop).reverse, ?_, ?_⟩
  · rw [rstripWith, ← List.reverse_append, List.takeWhile_append_dropWhile, List.reverse_reverse]
  · intro c member
    exact List.all_eq_true.mp List.all_takeWhile c (List.mem_reverse.mp member)

theorem strip_blank_append (all : ∀ c ∈ blank, isSpace c = true) : strip (blank ++ text) = strip text :=
  congrArg (rstripWith isSpace) (dropWhile_blank all)

theorem strip_append_blank (all : ∀ c ∈ blank, isSpace c = true) : strip (text ++ blank) = strip text := by
  rw [strip, lstrip, List.dropWhile_append, strip, lstrip]
  split
  · next empty =>
    have nothing : blank.dropWhile isSpace = [] := by
      rw [← List.append_nil blank, dropWhile_blank all]
      rfl
    rw [List.isEmpty_iff.mp empty, nothing]
  · exact rstripWith_blank all

theorem exists_strip (text : List Char) :
    ∃ before after, text = before ++ (strip text ++ after) ∧ (∀ c ∈ before, isSpace c = true) ∧
      ∀ c ∈ after, isSpace c = true := by
  obtain ⟨after, split, blank⟩ := exists_rstripWith isSpace (lstrip text)
  refine ⟨text.takeWhile isSpace, after, ?_, List.all_eq_true.mp List.all_takeWhile, blank⟩
  exact (List.takeWhile_append_dropWhile).symm.trans (congrArg (_ ++ ·) split)

theorem strip_strip (text : List Char) : strip (strip text) = strip text := by
  obtain ⟨before, after, split, leading, trailing⟩ := exists_strip text
  calc strip (strip text) = strip (strip text ++ after) := (strip_append_blank trailing).symm
    _ = strip (before ++ (strip text ++ after)) := (strip_blank_append leading).symm
    _ = strip text := by rw [← split]

theorem strip_eq_nil_iff : strip text = [] ↔ ∀ c ∈ text, isSpace c = true := by
  constructor
  · intro empty
    obtain ⟨before, after, split, leading, trailing⟩ := exists_strip text
    rw [split, empty]
    simpa [or_imp, forall_and] using ⟨leading, trailing⟩
  · intro all
    rw [← List.append_nil text, strip_blank_append all]
    rfl

/-- `str.upper()`. The letters outside ASCII which are listed are those with an
ASCII uppercase; the others stay. -/
def upperChar : Char → List Char
  | 'ß' => ['S', 'S']
  | 'ı' => ['I']
  | 'ſ' => ['S']
  | 'ﬀ' => ['F', 'F']
  | 'ﬁ' => ['F', 'I']
  | 'ﬂ' => ['F', 'L']
  | 'ﬃ' => ['F', 'F', 'I']
  | 'ﬄ' => ['F', 'F', 'L']
  | 'ﬅ' => ['S', 'T']
  | 'ﬆ' => ['S', 'T']
  | c => [c.toUpper]

def upper (text : List Char) : List Char := text.flatMap upperChar

/-- The character tables behind `str.isalnum` and `str.isdecimal`, of which the
part outside ASCII is left open. -/
structure Unicode where
  isAlnum : Char → Bool
  isDecimal : Char → Bool
  alnum_ascii : ∀ c, c.toNat < 128 → isAlnum c = c.isAlphanum
  decimal_ascii : ∀ c, c.toNat < 128 → isDecimal c = c.isDigit

namespace Unicode
variable (unicode : Unicode)

def isWord (c : Char) : Bool := unicode.isAlnum c || c = '_'

/-- `\b` between two characters, or at an end of the text. -/
def boundary (before after : Option Char) : Bool :=
  before.any unicode.isWord != after.any unicode.isWord

end Unicode

/-- A lowercase ASCII letter of a pattern under `re.IGNORECASE`. -/
def sameLetter (letter c : Char) : Bool :=
  c.toLower = letter || (letter = 'i' && (c = 'ı' || c = 'İ')) || (letter = 's' && c = 'ſ') ||
    (letter = 'k' && c = 'K')

/-- Reads the letters of a pattern and returns the last character which was read,
or the one before them, and what follows. -/
def readLetters : List Char → Option Char → List Char → Option (Option Char × List Char)
  | [], before, text => some (before, text)
  | letter :: letters, _, c :: rest => if sameLetter letter c then readLetters letters (some c) rest else none
  | _ :: _, _, [] => none

/-- Behind a text, what cannot continue the letters is not read as part of them. -/
theorem readLetters_append {letters rest : List Char} (stops : ∀ c ∈ rest.head?, ∀ letter ∈ letters,
      sameLetter letter c = false) (before : Option Char) :
    readLetters letters before (text ++ rest) =
      (readLetters letters before text).map fun (last, remaining) => (last, remaining ++ rest) := by
  induction letters generalizing before text with
  | nil => rfl
  | cons letter letters ih =>
    cases text with
    | nil =>
      cases rest with
      | nil => rfl
      | cons c rest => simp [readLetters, stops c rfl letter List.mem_cons_self]
    | cons c text =>
      simp only [List.cons_append, readLetters]
      split
      · exact ih (fun d first other member => stops d first other (List.mem_cons_of_mem _ member)) _
      · rfl

/-- `re.search`, for a pattern given by whether it matches behind a character. -/
def search (matchesAt : Option Char → List Char → Bool) (before : Option Char) : List Char → Bool
  | [] => matchesAt before []
  | c :: rest => matchesAt before (c :: rest) || search matchesAt (some c) rest

end FlightHub.Python
