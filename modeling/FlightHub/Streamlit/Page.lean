import FlightHub.Tabular.Frame
import Mathlib.Data.Rat.Defs
import Mathlib.Logic.Function.Basic

/-! Pages of Streamlit. A run of a script shows elements one after the other,
reads and writes the state of its session, and may end before its last line. -/
namespace Streamlit
open Tabular

/-- A layer of pydeck. Its accessors name columns of the data. -/
structure Layer (V : Type) where
  kind : String
  data : Frame String V
  getPosition : List String
  getFillColor : String
  getRadius : Int
  pickable : Bool
  opacity : ℚ

structure ViewState where
  latitude : ℚ
  longitude : ℚ
  zoom : ℚ

structure Tooltip where
  html : String
  style : List (String × String)

structure Deck (V : Type) where
  layers : List (Layer V)
  initialViewState : ViewState
  tooltip : Tooltip
  mapStyle : Option String

inductive Element (V : Type) where
  | pageConfig (pageTitle pageIcon layout : String)
  | title (body : String)
  | caption (body : String)
  | info (body : String)
  | error (body : String)
  | textInput (label kind : String)
  | button (label : String)
  | dataframe (data : Frame String V) (useContainerWidth : Bool)
  | pydeckChart (deck : Deck V)
  | expander (label : String) (expanded : Bool) (content : List (Element V))
  /-- The box of an exception, without its text. -/
  | exception

/-- How a run ends before its last line. -/
inductive Interrupt (X : Type) where
  | raised (exception : X)
  | stop
  | rerun
deriving DecidableEq

/-- The state of the session, and what the run has shown. -/
structure Screen (S V : Type) where
  session : String → Option S
  elements : List (Element V)

def Page (X S V α : Type) : Type := Screen S V → Except (Interrupt X) α × Screen S V

/-- The values of the widgets in a run. A button is true in the run of its click. -/
structure Input where
  text : String → String
  clicked : String → Bool

namespace Page
variable {X S V α β : Type}

def run (page : Page X S V α) (screen : Screen S V) : Except (Interrupt X) α × Screen S V := page screen

instance : Monad (Page X S V) where
  pure value := fun screen => (.ok value, screen)
  bind page next := fun screen =>
    match page screen with
    | (.ok value, screen) => next value screen
    | (.error interrupt, screen) => (.error interrupt, screen)

def interrupt (how : Interrupt X) : Page X S V α := fun screen => (.error how, screen)

def raise (exception : X) : Page X S V α := interrupt (.raised exception)

def emit (element : Element V) : Page X S V Unit :=
  fun screen => (.ok (), { screen with elements := screen.elements ++ [element] })

def sessionGet (key : String) : Page X S V (Option S) := fun screen => (.ok (screen.session key), screen)

def sessionSet (key : String) (value : S) : Page X S V Unit :=
  fun screen => (.ok (), { screen with session := Function.update screen.session key value })

def textInput (input : Input) (label kind : String) : Page X S V String := do
  emit (.textInput label kind)
  return input.text label

def button (input : Input) (label : String) : Page X S V Bool := do
  emit (.button label)
  return input.clicked label

/-- `with st.expander(label): body`. -/
def expander (label : String) (expanded : Bool) (body : Page X S V Unit) : Page X S V Unit :=
  fun screen =>
    let (result, inner) := body { screen with elements := [] }
    (result, ⟨inner.session, screen.elements ++ [.expander label expanded inner.elements]⟩)

/-- `try: page`, where the handler is chosen by the exception. -/
def handle (page : Page X S V α) (handler : X → Option (Page X S V α)) : Page X S V α :=
  fun screen =>
    match page screen with
    | (.error (.raised exception), screen) =>
      ((handler exception).getD (raise exception)) screen
    | finished => finished

/-- `@st.fragment`. With `own` the package shows an exception of the fragment itself, and
raises its own in its place; without, it passes the exception on. -/
def fragment (own : Option X) (page : Page X S V α) : Page X S V α :=
  page.handle fun _ => own.map fun exception => do
    emit .exception
    raise exception

/-- What some other part of the script shows, and how it ends. -/
def part (shown : List (Element V)) (result : Except (Interrupt X) α) : Page X S V α :=
  fun screen => (result, { screen with elements := screen.elements ++ shown })

/-! ### Runs -/

section Runs
variable {screen next : Screen S V} {page : Page X S V α} {rest : α → Page X S V β} {value : α}
  {how : Interrupt X}

@[simp] theorem run_pure (value : α) (screen : Screen S V) :
    (pure value : Page X S V α).run screen = (.ok value, screen) := rfl

theorem run_bind (page : Page X S V α) (rest : α → Page X S V β) (screen : Screen S V) :
    (page >>= rest).run screen =
      match page.run screen with
      | (.ok value, screen) => (rest value).run screen
      | (.error interrupt, screen) => (.error interrupt, screen) := rfl

theorem run_bind_ok (ran : page.run screen = (.ok value, next)) :
    (page >>= rest).run screen = (rest value).run next := by
  rw [run_bind, ran]

theorem run_bind_error (ran : page.run screen = (.error how, next)) :
    (page >>= rest).run screen = (.error how, next) := by
  rw [run_bind, ran]

@[simp] theorem run_interrupt (how : Interrupt X) (screen : Screen S V) :
    (interrupt how : Page X S V α).run screen = (.error how, screen) := rfl

@[simp] theorem run_raise (exception : X) (screen : Screen S V) :
    (raise exception : Page X S V α).run screen = (.error (.raised exception), screen) := rfl

@[simp] theorem run_emit (element : Element V) (screen : Screen S V) :
    (emit element : Page X S V Unit).run screen =
      (.ok (), { screen with elements := screen.elements ++ [element] }) := rfl

@[simp] theorem run_sessionGet (key : String) (screen : Screen S V) :
    (sessionGet key : Page X S V (Option S)).run screen = (.ok (screen.session key), screen) := rfl

@[simp] theorem run_sessionSet (key : String) (value : S) (screen : Screen S V) :
    (sessionSet key value : Page X S V Unit).run screen =
      (.ok (), { screen with session := Function.update screen.session key value }) := rfl

@[simp] theorem run_textInput (input : Input) (label kind : String) (screen : Screen S V) :
    (textInput input label kind : Page X S V String).run screen =
      (.ok (input.text label), { screen with elements := screen.elements ++ [.textInput label kind] }) := rfl

@[simp] theorem run_button (input : Input) (label : String) (screen : Screen S V) :
    (button input label : Page X S V Bool).run screen =
      (.ok (input.clicked label), { screen with elements := screen.elements ++ [.button label] }) := rfl

theorem run_expander {body : Page X S V Unit} {result : Except (Interrupt X) Unit} {inner : Screen S V}
    (ran : body.run { screen with elements := [] } = (result, inner)) (label : String) (expanded : Bool) :
    (expander label expanded body).run screen =
      (result, ⟨inner.session, screen.elements ++ [.expander label expanded inner.elements]⟩) := by
  change body _ = _ at ran
  simp only [run, expander, ran]

theorem run_handle_other {handler : X → Option (Page X S V α)}
    (other : ∀ exception, (page.run screen).1 ≠ .error (.raised exception)) :
    (page.handle handler).run screen = page.run screen := by
  simp only [run, handle] at other ⊢
  split
  · next exception _ raised => exact absurd (by rw [raised]) (other exception)
  · rfl

theorem run_handle_raised {handler : X → Option (Page X S V α)} {exception : X}
    (ran : page.run screen = (.error (.raised exception), next)) :
    (page.handle handler).run screen = ((handler exception).getD (raise exception)).run next := by
  change page screen = _ at ran
  simp only [run, handle, ran]

end Runs

/-! ### Pages which leave the session alone -/

def KeepsSession (page : Page X S V α) : Prop :=
  ∀ screen, (page.run screen).2.session = screen.session

section Session
variable {page : Page X S V α} {rest : α → Page X S V β}

theorem KeepsSession.bind (first : page.KeepsSession) (second : ∀ value, (rest value).KeepsSession) :
    (page >>= rest).KeepsSession := by
  intro screen
  have kept := first screen
  rw [run_bind]
  match ran : page.run screen with
  | (.ok value, next) =>
    rw [ran] at kept
    exact (second value next).trans kept
  | (.error how, next) =>
    rw [ran] at kept
    exact kept

theorem keepsSession_pure (value : α) : (pure value : Page X S V α).KeepsSession := fun _ => rfl

theorem keepsSession_interrupt (how : Interrupt X) : (interrupt how : Page X S V α).KeepsSession :=
  fun _ => rfl

theorem keepsSession_emit (element : Element V) : (emit element : Page X S V Unit).KeepsSession :=
  fun _ => rfl

theorem keepsSession_part (shown : List (Element V)) (result : Except (Interrupt X) α) :
    (part shown result : Page X S V α).KeepsSession := fun _ => rfl

theorem KeepsSession.expander {body : Page X S V Unit} (kept : body.KeepsSession) (label : String)
    (expanded : Bool) : (expander label expanded body).KeepsSession :=
  fun _ => kept _

theorem KeepsSession.handle {handler : X → Option (Page X S V α)} (first : page.KeepsSession)
    (second : ∀ exception handled, handler exception = some handled → handled.KeepsSession) :
    (page.handle handler).KeepsSession := by
  intro screen
  by_cases raises : ∃ exception, (page.run screen).1 = .error (.raised exception)
  · obtain ⟨exception, raised⟩ := raises
    rw [run_handle_raised (Prod.ext raised rfl)]
    cases chosen : handler exception with
    | none => exact first screen
    | some handled => exact (second exception handled chosen _).trans (first screen)
  · rw [run_handle_other (not_exists.mp raises)]
    exact first screen

theorem KeepsSession.fragment (kept : page.KeepsSession) (own : Option X) :
    (page.fragment own).KeepsSession := by
  refine kept.handle fun _ handled chosen => ?_
  obtain ⟨exception, -, rfl⟩ := Option.map_eq_some_iff.mp chosen
  exact (keepsSession_emit _).bind fun _ => keepsSession_interrupt _

end Session

end Page

end Streamlit
