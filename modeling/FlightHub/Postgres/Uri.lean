import FlightHub.Postgres.Names
import Mathlib.Data.List.TakeWhile

/-! Connection URIs as libpq reads them. Every part ends at its first delimiter
and is decoded afterwards, so a part which holds a delimiter is cut short. Hosts
in brackets, lists of hosts and the parameters after the database are left out. -/
namespace Postgres

def utf8 (text : List Char) : List UInt8 := text.flatMap String.utf8EncodeChar

/-- The bytes which a component stands for. An escape without its two digits is
refused, and so is that of the null byte. What is not escaped stands for itself,
also a space, which some releases of libpq trim or refuse. -/
def percentDecode : List Char → Option (List UInt8)
  | [] => some []
  | c :: rest =>
    if c = '%' then
      match rest with
      | high :: low :: rest =>
        match hexDigit high, hexDigit low with
        | some high, some low =>
          if 16 * high + low = 0 then none
          else (percentDecode rest).map (UInt8.ofNat (16 * high + low) :: ·)
        | _, _ => none
      | _ => none
    else (percentDecode rest).map (String.utf8EncodeChar c ++ ·)

/-- The options which a URI sets. -/
structure Conninfo where
  user : Option (List UInt8)
  password : Option (List UInt8)
  host : Option (List UInt8)
  port : Option (List UInt8)
  dbname : Option (List UInt8)
deriving DecidableEq

/-- The text before the first of some delimiters, and the text from there on. -/
def upTo (delimiters : List Char) (text : List Char) : List Char :=
  text.takeWhile fun c => c ∉ delimiters

def after (delimiters : List Char) (text : List Char) : List Char :=
  text.dropWhile fun c => c ∉ delimiters

/-- An empty component leaves its option unset. -/
def stored (component : List Char) : Option (Option (List UInt8)) :=
  if component.isEmpty then some none else (percentDecode component).map some

/-- `host:port/dbname`, behind the credentials. -/
def parseLocation (user password : Option (List UInt8)) (text : List Char) : Option Conninfo := do
  let host ← stored (upTo [':', '/', '?'] text)
  let rest := after [':', '/', '?'] text
  let (port, rest) :=
    if rest.head? = some ':' then (upTo ['/', '?'] rest.tail, after ['/', '?'] rest.tail) else ([], rest)
  let port ← stored port
  let dbname ← stored (if rest.head? = some '/' then upTo ['?'] rest.tail else [])
  return { user, password, host, port, dbname }

/-- The text behind the scheme. There are credentials only if an `@` occurs
before the first slash. -/
def parseAuthority (text : List Char) : Option Conninfo :=
  match after ['@', '/'] text with
  | '@' :: location => do
    let credentials := upTo ['@', '/'] text
    let user ← stored (upTo [':'] credentials)
    let password ← stored (after [':'] credentials).tail
    parseLocation user password location
  | _ => parseLocation none none text

def parseUri (uri : List Char) : Option Conninfo :=
  if "postgresql://".toList.isPrefixOf uri then parseAuthority (uri.drop "postgresql://".length)
  else if "postgres://".toList.isPrefixOf uri then parseAuthority (uri.drop "postgres://".length)
  else none

example : parseUri "postgresql://user:p%40ss@db:5432/hub".toList =
    some ⟨utf8 "user".toList, utf8 "p@ss".toList, utf8 "db".toList, utf8 "5432".toList,
      utf8 "hub".toList⟩ := by decide +kernel

/-! ### Decoding -/

section Decoding
variable {text whole : List Char} {bytes : List UInt8}

theorem utf8_cons (c : Char) (text : List Char) : utf8 (c :: text) = String.utf8EncodeChar c ++ utf8 text :=
  rfl

theorem utf8_append (text more : List Char) : utf8 (text ++ more) = utf8 text ++ utf8 more :=
  List.flatMap_append

theorem length_utf8_cons (c : Char) (text : List Char) :
    (utf8 (c :: text)).length = c.utf8Size + (utf8 text).length := by
  rw [utf8_cons, List.length_append, String.length_utf8EncodeChar]

theorem percentDecode_cons {c : Char} (other : c ≠ '%') (rest : List Char) :
    percentDecode (c :: rest) = (percentDecode rest).map (String.utf8EncodeChar c ++ ·) := by
  rw [percentDecode.eq_def]
  exact if_neg other

theorem percentDecode_plain (plain : '%' ∉ text) : percentDecode text = some (utf8 text) := by
  induction text with
  | nil => rfl
  | cons c rest ih =>
    rw [List.mem_cons, not_or] at plain
    obtain ⟨other, plain⟩ := plain
    rw [percentDecode_cons (Ne.symm other), ih plain]
    rfl

/-- Decoding shortens a text by what its escapes take. -/
theorem length_percentDecode (decoded : percentDecode text = some bytes) :
    bytes.length ≤ (utf8 text).length ∧ ('%' ∈ text → bytes.length < (utf8 text).length) := by
  fun_induction percentDecode text generalizing bytes with
  | case1 =>
    cases decoded
    exact ⟨Nat.le_refl _, fun escape => absurd escape List.not_mem_nil⟩
  | case2 => cases decoded
  | case3 high low rest _ _ _ _ _ ih =>
    obtain ⟨later, read, rfl⟩ := Option.map_eq_some_iff.mp decoded
    have shorter := (ih read).1
    have first := Char.utf8Size_pos high
    have second := Char.utf8Size_pos low
    have escape := Char.utf8Size_pos '%'
    simp only [length_utf8_cons, List.length_cons]
    exact ⟨by omega, fun _ => by omega⟩
  | case4 => cases decoded
  | case5 => cases decoded
  | case6 c rest other ih =>
    obtain ⟨later, read, rfl⟩ := Option.map_eq_some_iff.mp decoded
    obtain ⟨shorter, strictly⟩ := ih read
    rw [length_utf8_cons, List.length_append, String.length_utf8EncodeChar]
    constructor
    · exact Nat.add_le_add_left shorter _
    · intro escape
      have later := (List.mem_cons.mp escape).resolve_left (Ne.symm other)
      exact Nat.add_lt_add_left (strictly later) _

/-- Only the whole of a text without escapes is decoded to that text. -/
theorem eq_of_percentDecode (begins : text <+: whole) (decoded : percentDecode text = some (utf8 whole)) :
    text = whole ∧ '%' ∉ whole := by
  obtain ⟨rest, rfl⟩ := begins
  obtain ⟨shorter, strictly⟩ := length_percentDecode decoded
  rw [utf8_append, List.length_append] at shorter strictly
  cases rest with
  | nil =>
    rw [List.append_nil]
    refine ⟨rfl, fun escape => ?_⟩
    exact absurd (strictly escape) (Nat.not_lt.mpr (Nat.le_add_right _ _))
  | cons c rest =>
    have first := Char.utf8Size_pos c
    rw [length_utf8_cons] at shorter
    omega

theorem stored_plain (nonempty : text ≠ []) (plain : '%' ∉ text) : stored text = some (some (utf8 text)) := by
  rw [stored, if_neg (by simpa using nonempty), percentDecode_plain plain]
  rfl

theorem eq_of_stored (begins : text <+: whole) (kept : stored text = some (some (utf8 whole))) :
    text = whole ∧ '%' ∉ whole := by
  unfold stored at kept
  split at kept
  · cases kept
  · obtain ⟨bytes, decoded, same⟩ := Option.map_eq_some_iff.mp kept
    cases same
    exact eq_of_percentDecode begins decoded

end Decoding

/-! ### Delimiters -/

section Delimiters
variable {delimiters text rest : List Char} {c : Char}

theorem upTo_append (ends : c ∈ delimiters) : upTo delimiters (text ++ c :: rest) = upTo delimiters text := by
  rw [upTo, List.takeWhile_append]
  split
  · next whole =>
    have same := (List.takeWhile_prefix _).eq_of_length whole
    rw [upTo, same, List.takeWhile_cons_of_neg (by simpa using ends), List.append_nil]
  · rfl

theorem free_of_subset {more : List Char} (free : ∀ d ∈ text, d ∉ more) (within : delimiters ⊆ more) :
    ∀ d ∈ text, d ∉ delimiters :=
  fun d member delimiter => free d member (within delimiter)

theorem upTo_free (free : ∀ d ∈ text, d ∉ delimiters) : upTo delimiters text = text :=
  List.takeWhile_eq_self_iff.mpr (by simpa using free)

theorem upTo_append_free (free : ∀ d ∈ text, d ∉ delimiters) :
    upTo delimiters (text ++ rest) = text ++ upTo delimiters rest :=
  List.takeWhile_append_of_pos (by simpa using free)

theorem after_append_free (free : ∀ d ∈ text, d ∉ delimiters) :
    after delimiters (text ++ rest) = after delimiters rest :=
  List.dropWhile_append_of_pos (by simpa using free)

theorem after_delimiter (ends : c ∈ delimiters) : after delimiters (c :: rest) = c :: rest :=
  List.dropWhile_cons_of_neg (by simpa using ends)

theorem after_cons (other : c ∉ delimiters) : after delimiters (c :: rest) = after delimiters rest :=
  List.dropWhile_cons_of_pos (by simpa using other)

/-- No delimiter is read. -/
theorem not_mem_of_mem_upTo {d : Char} (member : d ∈ upTo delimiters text) : d ∉ delimiters := by
  simpa using List.all_eq_true.mp List.all_takeWhile d member

/-- Reading up to a delimiter keeps a text exactly when the text holds neither a
delimiter nor an escape. -/
theorem stored_upTo_iff (nonempty : text ≠ []) :
    stored (upTo delimiters text) = some (some (utf8 text)) ↔ ∀ d ∈ text, d ∉ '%' :: delimiters := by
  constructor
  · intro kept d member
    obtain ⟨whole, plain⟩ := eq_of_stored (List.takeWhile_prefix _) kept
    rw [List.mem_cons, not_or]
    constructor
    · rintro rfl
      exact plain member
    · rw [← whole] at member
      exact not_mem_of_mem_upTo member
  · intro free
    rw [upTo_free (free_of_subset free (List.subset_cons_self _ _))]
    exact stored_plain nonempty fun escape => free '%' escape List.mem_cons_self

end Delimiters

/-! ### Credentials and location -/

section Components
variable {user password host port database location rest text : List Char}
  {known secret : Option (List UInt8)} {info : Conninfo}

theorem parseLocation_credentials (parsed : parseLocation known secret text = some info) :
    info.user = known ∧ info.password = secret := by
  simp only [parseLocation, Option.bind_eq_bind, Option.bind_eq_some_iff, Option.pure_def,
    Option.some.injEq] at parsed
  obtain ⟨_, _, _, _, _, _, rfl⟩ := parsed
  exact ⟨rfl, rfl⟩

theorem parseLocation_eq (hostNonempty : host ≠ []) (hostFree : ∀ c ∈ host, c ∉ ['%', ':', '/', '?'])
    (portNonempty : port ≠ []) (portFree : ∀ c ∈ port, c ∉ ['%', '/', '?']) :
    parseLocation known secret (host ++ ':' :: (port ++ '/' :: database)) =
      (stored (upTo ['?'] database)).map fun dbname =>
        ⟨known, secret, some (utf8 host), some (utf8 port), dbname⟩ := by
  have hostRead : stored (upTo [':', '/', '?'] (host ++ ':' :: (port ++ '/' :: database))) =
      some (some (utf8 host)) := by
    rw [upTo_append (by decide)]
    exact (stored_upTo_iff hostNonempty).mpr hostFree
  have portRead : stored (upTo ['/', '?'] (port ++ '/' :: database)) = some (some (utf8 port)) := by
    rw [upTo_append (by decide)]
    exact (stored_upTo_iff portNonempty).mpr portFree
  have hostPassed : after [':', '/', '?'] (host ++ ':' :: (port ++ '/' :: database)) =
      ':' :: (port ++ '/' :: database) := by
    rw [after_append_free (free_of_subset hostFree (List.subset_cons_self _ _))]
    exact after_delimiter (by decide)
  have portPassed : after ['/', '?'] (port ++ '/' :: database) = '/' :: database := by
    rw [after_append_free (free_of_subset portFree (List.subset_cons_self _ _))]
    exact after_delimiter (by decide)
  simp only [parseLocation, hostRead, hostPassed, List.head?_cons, if_true, List.tail_cons, portRead,
    portPassed, Option.bind_eq_bind, Option.bind_some]
  cases stored (upTo ['?'] database) <;> rfl

/-- The user of a URI is read from a text up to each delimiter of its place. -/
theorem user_of_parseAuthority (parsed : parseAuthority (user ++ ':' :: rest) = some info)
    (read : info.user = some (utf8 user)) (nonempty : user ≠ []) : ∀ c ∈ user, c ∉ ['%', ':', '@', '/'] := by
  unfold parseAuthority at parsed
  split at parsed
  · simp only [Option.bind_eq_bind, Option.bind_eq_some_iff] at parsed
    obtain ⟨known, kept, _, _, parsed⟩ := parsed
    rw [← (parseLocation_credentials parsed).1, read] at kept
    have whole : upTo [':', '@', '/'] (user ++ ':' :: rest) = upTo [':', '@', '/'] user :=
      upTo_append List.mem_cons_self
    rw [← stored_upTo_iff nonempty, ← whole, ← kept]
    congr 1
    simp [upTo, List.takeWhile_takeWhile]
  · have unset := (parseLocation_credentials parsed).1
    rw [read] at unset
    cases unset

theorem upTo_credentials (free : ∀ c ∈ user, c ∉ ['%', ':', '@', '/']) :
    upTo ['@', '/'] (user ++ ':' :: rest) = user ++ ':' :: upTo ['@', '/'] rest := by
  rw [upTo_append_free (free_of_subset free (by decide))]
  rfl

theorem after_user (free : ∀ c ∈ user, c ∉ ['%', ':', '@', '/']) :
    after [':'] (user ++ ':' :: rest) = ':' :: rest := by
  rw [after_append_free (free_of_subset free (by decide)), after_delimiter List.mem_cons_self]

theorem password_of_parseAuthority (free : ∀ c ∈ user, c ∉ ['%', ':', '@', '/'])
    (parsed : parseAuthority (user ++ ':' :: (password ++ '@' :: rest)) = some info)
    (read : info.password = some (utf8 password)) (nonempty : password ≠ []) :
    ∀ c ∈ password, c ∉ ['%', '@', '/'] := by
  unfold parseAuthority at parsed
  split at parsed
  · simp only [upTo_credentials free, after_user free, List.tail_cons, Option.bind_eq_bind,
      Option.bind_eq_some_iff] at parsed
    obtain ⟨_, _, secret, kept, parsed⟩ := parsed
    rw [← (parseLocation_credentials parsed).2, read, upTo_append (by decide)] at kept
    exact (stored_upTo_iff nonempty).mp kept
  · have unset := (parseLocation_credentials parsed).2
    rw [read] at unset
    cases unset

theorem parseAuthority_eq (userNonempty : user ≠ []) (userFree : ∀ c ∈ user, c ∉ ['%', ':', '@', '/'])
    (passwordNonempty : password ≠ []) (passwordFree : ∀ c ∈ password, c ∉ ['%', '@', '/']) :
    parseAuthority (user ++ ':' :: (password ++ '@' :: location)) =
      parseLocation (some (utf8 user)) (some (utf8 password)) location := by
  have userRead : stored (upTo [':'] (user ++ ':' :: upTo ['@', '/'] (password ++ '@' :: location))) =
      some (some (utf8 user)) := by
    rw [upTo_append List.mem_cons_self]
    exact (stored_upTo_iff userNonempty).mpr (free_of_subset userFree (by decide))
  have passwordRead : stored (upTo ['@', '/'] (password ++ '@' :: location)) =
      some (some (utf8 password)) := by
    rw [upTo_append List.mem_cons_self]
    exact (stored_upTo_iff passwordNonempty).mpr passwordFree
  have passed : after ['@', '/'] (user ++ ':' :: (password ++ '@' :: location)) = '@' :: location := by
    rw [after_append_free (free_of_subset userFree (by decide)), after_cons (by decide),
      after_append_free (free_of_subset passwordFree (by decide))]
    exact after_delimiter List.mem_cons_self
  rw [parseAuthority, passed]
  simp only [upTo_credentials userFree, userRead, after_user userFree, List.tail_cons, passwordRead,
    Option.bind_eq_bind, Option.bind_some]

end Components

end Postgres
