import Mathlib.Data.List.Basic
import Mathlib.Data.List.Induction

/-! Lexers which read one symbol at a time, and the division of what they emit
into the pieces between separators. Both say what appending to the input adds,
so a text can be extended without reading it again. Of two lexers which read
alike until they part, one knows what the other reads before that. -/
namespace Lexical
variable {σ α β : Type*}

structure Machine (σ α β : Type*) where
  step : σ → α → σ × List β
  finish : σ → List β

namespace Machine
variable (machine : Machine σ α β)

def advance (state : σ) : List α → σ
  | [] => state
  | symbol :: rest => advance (machine.step state symbol).1 rest

def emitted (state : σ) : List α → List β
  | [] => []
  | symbol :: rest => (machine.step state symbol).2 ++ emitted (machine.step state symbol).1 rest

def read (state : σ) (input : List α) : List β :=
  machine.emitted state input ++ machine.finish (machine.advance state input)

variable {machine} {state : σ}

theorem advance_append (first second : List α) :
    machine.advance state (first ++ second) = machine.advance (machine.advance state first) second := by
  induction first generalizing state with
  | nil => rfl
  | cons symbol rest ih => exact ih

theorem emitted_append (first second : List α) :
    machine.emitted state (first ++ second) =
      machine.emitted state first ++ machine.emitted (machine.advance state first) second := by
  induction first generalizing state with
  | nil => rfl
  | cons symbol rest ih => simp only [List.cons_append, emitted, advance, ih, List.append_assoc]

theorem read_append (first second : List α) :
    machine.read state (first ++ second) =
      machine.emitted state first ++ machine.read (machine.advance state first) second := by
  simp only [read, advance_append, emitted_append, List.append_assoc]

theorem read_cons (symbol : α) (rest : List α) :
    machine.read state (symbol :: rest) =
      (machine.step state symbol).2 ++ machine.read (machine.step state symbol).1 rest := by
  simp only [read, emitted, advance, List.append_assoc]

/-- What a text adds when it is appended is decided by the state at the end. -/
theorem read_extend {first second : List α} {added : List β}
    (adds : machine.read (machine.advance state first) second =
      machine.finish (machine.advance state first) ++ added) :
    machine.read state (first ++ second) = machine.read state first ++ added := by
  rw [read_append, adds, read, List.append_assoc]

/-- A lexer within a comment or a literal emits nothing while the input cannot end it. -/
theorem read_within {within : σ → Prop} {plain : α → Prop}
    (stays : ∀ {state symbol}, within state → plain symbol →
      within (machine.step state symbol).1 ∧ (machine.step state symbol).2 = [])
    (ends : ∀ {state}, within state → machine.finish state = [])
    (inside : within state) {input : List α} (harmless : ∀ symbol ∈ input, plain symbol) :
    machine.read state input = [] := by
  induction input generalizing state with
  | nil => exact ends inside
  | cons symbol rest ih =>
    obtain ⟨inside, silent⟩ := stays inside (harmless symbol List.mem_cons_self)
    rw [read_cons, silent]
    exact ih inside fun other member => harmless other (List.mem_cons_of_mem _ member)

/-! ### Lexers which part -/

section Parting
variable {τ : Type*} (machine : Machine σ α β) (parts : σ → α → Bool) {other : Machine τ α β} {embed : σ → τ}

/-- What is read from that symbol on. -/
def parted (state : σ) : List α → List β
  | [] => []
  | symbol :: rest =>
    if parts state symbol then machine.read state (symbol :: rest)
    else parted (machine.step state symbol).1 rest

variable {machine parts}

end Parting

end Machine

def pieces (separates : α → Bool) (items : List α) : List (List α) :=
  (items.splitOnP separates).filter (!·.isEmpty)

namespace pieces
variable {separates : α → Bool} {separator : α} {items added piece : List α}

theorem append_cons (first second : List α) (ends : separates separator) :
    pieces separates (first ++ separator :: second) =
      pieces separates first ++ pieces separates second := by
  rw [pieces, List.splitOnP_append_cons _ _ ends, List.filter_append]
  rfl

theorem single (plain : ∀ item ∈ items, separates item = false) (nonempty : items ≠ []) :
    pieces separates items = [items] := by
  rw [pieces, List.splitOnP_eq_singleton plain]
  simpa using nonempty

theorem append_separator (ends : separates separator) :
    pieces separates (items ++ [separator]) = pieces separates items := by
  rw [append_cons _ _ ends]
  exact List.append_nil _

theorem append_separators (ends : separates separator) (count : Nat) :
    pieces separates (items ++ List.replicate count separator) = pieces separates items := by
  induction count with
  | zero => rw [List.replicate_zero, List.append_nil]
  | succ count ih =>
    rw [List.replicate_succ', ← List.append_assoc, append_separator ends, ih]

end pieces
end Lexical
