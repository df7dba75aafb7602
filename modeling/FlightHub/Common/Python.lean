import Mathlib.Algebra.Group.Nat.Defs
import Mathlib.Algebra.Group.Int.Defs
import Mathlib.Data.Nat.Sqrt
import Mathlib.Data.Rat.Defs

/-! The Python values and library functions which the services share: parsed
JSON, truth values, indexing, `str.strip` and UTC datetimes. Floating-point
numbers are exact rationals; infinities and NaN are not JSON values. -/
namespace FlightHub.Python

/-- A value as `json.loads` returns it. An object is a dict with string keys.
A text is a sequence of Unicode scalar values: one with a lone surrogate, which
an escape can spell, is left out. -/
inductive Json where
  | null
  | bool (value : Bool)
  | int (value : Int)
  | float (value : ℚ)
  | str (value : String)
  | arr (items : List Json)
  | obj (fields : List (String × Json))

inductive Exception where
  | valueError (message : String)
  | validationError (fields : List String)
  | typeError
  | keyError (key : String)
  | indexError
  | attributeError
  | overflowError
  | osError
  | runtimeError (message : String)
  | jsonDecodeError
  | httpError
  | zeroDivisionError
  | rateLimitedError
deriving DecidableEq

def Json.truthy : Json → Bool
  | .null => false
  | .bool value => value
  | .int value => value ≠ 0
  | .float value => value ≠ 0
  | .str value => value ≠ ""
  | .arr items => !items.isEmpty
  | .obj fields => !fields.isEmpty

def Json.len : Json → Except Exception Nat
  | .str value => .ok value.toList.length
  | .arr items => .ok items.length
  | .obj fields => .ok fields.length
  | _ => .error .typeError

/-- `value[index]` for an integer index. The keys of a dict are strings, so an
integer is never one of them. -/
def Json.item (index : Nat) : Json → Except Exception Json
  | .str value => (value.toList[index]?).elim (.error .indexError) (.ok ∘ .str ∘ String.singleton)
  | .arr items => (items[index]?).elim (.error .indexError) .ok
  | .obj _ => .error (.keyError (toString index))
  | _ => .error .typeError

def Json.get (key : String) : Json → Except Exception (Option Json)
  | .obj fields => .ok (fields.lookup key)
  | _ => .error .attributeError

def Json.field (key : String) : Json → Except Exception Json
  | .obj fields => (fields.lookup key).elim (.error (.keyError key)) .ok
  | _ => .error .typeError

def Json.number : Json → Except Exception ℚ
  | .bool value => .ok (if value then 1 else 0)
  | .int value => .ok value
  | .float value => .ok value
  | _ => .error .typeError

/-- The least magnitude which a double rounds to infinity. -/
def doubleOverflow : ℚ := (2 ^ 1024 - 2 ^ 970 : Nat)

/-- `round(x)`, which takes the even one of two integers at the same distance. -/
def roundEven (x : ℚ) : Int :=
  let below := x.floor
  if x - below < 1 / 2 then below
  else if 1 / 2 < x - below then below + 1
  else if below % 2 = 0 then below
  else below + 1

/-- `round(x, digits)`. -/
def roundTo (digits : Nat) (x : ℚ) : ℚ := roundEven (x * 10 ^ digits) / 10 ^ digits

/-- `round(math.sqrt(x))` for a value which is not negative. -/
def roundSqrt (x : ℚ) : Nat :=
  let below := x.floor.toNat.sqrt
  let middle : ℚ := below + 1 / 2
  if x < middle ^ 2 then below
  else if middle ^ 2 < x then below + 1
  else if below % 2 = 0 then below
  else below + 1

/-- `format(x, ".<digits>f")`. -/
def formatFixed (digits : Nat) (x : ℚ) : String :=
  let scaled := (roundEven (x * 10 ^ digits)).natAbs
  let sign := if x < 0 then "-" else ""
  let whole := sign ++ toString (scaled / 10 ^ digits)
  let fraction := toString (scaled % 10 ^ digits)
  if digits = 0 then whole
  else whole ++ "." ++ "".pushn '0' (digits - fraction.length) ++ fraction

/-- `str.isspace` on one character. -/
def isSpace (c : Char) : Bool :=
  let n := c.toNat
  (9 ≤ n && n ≤ 13) || (28 ≤ n && n ≤ 32) || n = 0x85 || n = 0xA0 || n = 0x1680 ||
    (0x2000 ≤ n && n ≤ 0x200A) || n = 0x2028 || n = 0x2029 || n = 0x202F || n = 0x205F || n = 0x3000

def lstrip (text : List Char) : List Char := text.dropWhile isSpace

def rstripWith (drop : Char → Bool) (text : List Char) : List Char :=
  (text.reverse.dropWhile drop).reverse

def strip (text : List Char) : List Char := rstripWith isSpace (lstrip text)

def stripString (text : String) : String := String.ofList (strip text.toList)

/-- The Unix seconds of the first and the last second of the years 1 to 9999. -/
def minTimestamp : Int := -62135596800
def maxTimestamp : Int := 253402300799

/-- An aware `datetime`, by its UTC instant in microseconds. -/
@[ext] structure Datetime where
  micros : Int
  after_first : minTimestamp * 1000000 ≤ micros
  before_last : micros < (maxTimestamp + 1) * 1000000
deriving DecidableEq

/-- The `datetime` at an instant, when its year is one `datetime` can hold. -/
def Datetime.ofMicros (micros : Int) : Option Datetime :=
  if inside : minTimestamp * 1000000 ≤ micros ∧ micros < (maxTimestamp + 1) * 1000000 then
    some ⟨micros, inside.1, inside.2⟩
  else none

theorem Datetime.ofMicros_micros (time : Datetime) : Datetime.ofMicros time.micros = some time :=
  dif_pos ⟨time.after_first, time.before_last⟩

/-- The Unix seconds whose year `gmtime` can hold. -/
def minCalendar : Int := -67768040609740800
def maxCalendar : Int := 67768036191676799

/-- `datetime.fromtimestamp(ts, tz=UTC)` for an integer. -/
def fromtimestamp (ts : Int) : Except Exception Datetime :=
  if inside : minTimestamp ≤ ts ∧ ts ≤ maxTimestamp then
    .ok ⟨ts * 1000000, by omega, by omega⟩
  else if minCalendar ≤ ts ∧ ts ≤ maxCalendar then .error (.valueError "year is out of range")
  else if -(2 ^ 63) ≤ ts ∧ ts < 2 ^ 63 then .error .osError
  else .error .overflowError

theorem fromtimestamp_ok_iff {ts : Int} :
    (∃ time, fromtimestamp ts = .ok time) ↔ minTimestamp ≤ ts ∧ ts ≤ maxTimestamp := by
  unfold fromtimestamp
  split
  · next inside => simp [inside]
  · next outside =>
    split
    · simp [outside]
    · split <;> simp [outside]

theorem fromtimestamp_micros {ts : Int} {time : Datetime} (read : fromtimestamp ts = .ok time) :
    time.micros = ts * 1000000 := by
  unfold fromtimestamp at read
  split at read
  · cases read
    rfl
  · split at read
    · cases read
    · split at read <;> cases read

end FlightHub.Python
