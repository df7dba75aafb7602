import FlightHub.Dashboard.Script
import FlightHub.Transition.Run
import Mathlib.Algebra.Order.BigOperators.Group.List
import Mathlib.Algebra.Ring.Nat

/-! Sessions of the dashboard: full runs of the script, and between them runs of
the fragment which refreshes the map. A session spends completions on its clicks
alone, and nothing but its sign-in page is reached before the password. -/
namespace FlightHub
open Python Interaction Streamlit Transition

namespace Dashboard

/-- The state of a session, whether a fragment is shown which refreshes, and all
exchanges so far. -/
structure Tab (V : Type) where
  session : Session := fun _ => none
  live : Bool := false
  log : Trace (Widget V) V := []

inductive Event (V : Type) where
  | load (visit : Visit) (trace : Trace (Widget V) V) (result : Outcome Unit)
  | refresh (now : Datetime) (trace : Trace (Widget V) V) (result : Outcome Unit)

/-- `_require_password` in a run. -/
def gate (settings : Settings) (session : Session) (visit : Visit) :
    Except (Interrupt Fault) Bool × Screen Json Cell :=
  (requirePassword settings visit.input).run ⟨session, []⟩

/-- A run which is interrupted early leaves the session as it was, and shows no
fragment; the fragment of a run goes with the next one. -/
inductive Moves {V : Type} (lib : Library V) (settings : Settings) (ai : LLMProvider.Settings) :
    Tab V → Event V → Tab V → Prop where
  | load {tab : Tab V} {visit : Visit} {trace : Trace (Widget V) V} {result : Outcome Unit}
      {after : Session} {live : Bool}
      (run : Program.Runs (script lib settings ai tab.session visit) trace result)
      (stored : after = tab.session ∨ after = (gate settings tab.session visit).2.session)
      (shown : live = true → (gate settings tab.session visit).1 = .ok true) :
      Moves lib settings ai tab (.load visit trace result) ⟨after, live, tab.log ++ trace⟩
  | refresh {tab : Tab V} {now : Datetime} {trace : Trace (Widget V) V} {result : Outcome Unit}
      {own : Option Fault} (live : tab.live = true)
      (run : Program.Runs (liveFragment settings own tab.session now) trace result) :
      Moves lib settings ai tab (.refresh now trace result) { tab with log := tab.log ++ trace }

def Event.allowance {V : Type} (ai : LLMProvider.Settings) : Event V → Nat
  | .load visit _ _ => Dashboard.allowance (getProvider ai) visit.input
  | .refresh _ _ _ => 0

def Event.submits {V : Type} (password : String) : Event V → Prop
  | .load visit _ _ => visit.submission = some password
  | .refresh _ _ _ => False

/-- What a session has asked for. -/
structure Accounted {V : Type} (settings : Settings) (ai : LLMProvider.Settings) (events : List (Event V))
    (log : Trace (Widget V) V) : Prop where
  /-- Each statement had a connection of its own, which was left again. -/
  tidy : connections.watch .closed log = some .closed
  paid : Program.occurrences Query.completes log ≤ (events.map (Event.allowance ai)).sum
  /-- Before the password, neither the model nor the database was asked. -/
  locked : ∀ password, settings.dashboardPassword = some password → password ≠ "" →
    (∀ event ∈ events, ¬ event.submits password) → Displays log

section Sessions
variable {V : Type} {lib : Library V} {settings : Settings} {ai : LLMProvider.Settings} {s t : Tab V}
  {events : List (Event V)} {event : Event V} {password : String} {session : Session} {visit : Visit}

theorem Moves.log (moved : Moves lib settings ai s event t) : ∃ trace, t.log = s.log ++ trace ∧
    connections.watch .closed trace = some .closed ∧
      Program.occurrences Query.completes trace ≤ event.allowance ai := by
  cases moved with
  | load run =>
    obtain ⟨_, watched, rfl⟩ := keeps_script lib settings ai s.session _ _ _ run
    exact ⟨_, rfl, watched, asking_script lib settings ai s.session _ _ _ run⟩
  | refresh live run =>
    obtain ⟨_, watched, rfl⟩ := keeps_liveFragment settings _ s.session _ _ _ run
    exact ⟨_, rfl, watched, asking_liveFragment settings _ s.session _ _ _ run⟩

/-! ### The locked gate -/

theorem gate_locked (configured : settings.dashboardPassword = some password) (nonempty : password ≠ "")
    (unknown : ¬ authenticated session = true) (visit : Visit) :
    (gate settings session visit).1 ≠ .ok true ∧ (visit.submission ≠ some password →
      (gate settings session visit).2.session = session) := by
  have answers := run_requirePassword_answers configured nonempty unknown visit []
  exact ⟨answers.ne_true, answers.unchanged⟩

/-- Where the gate does not open, a run shows its page only. -/
theorem script_locked (lib : Library V) (ai : LLMProvider.Settings)
    (closed : (gate settings session visit).1 ≠ .ok true) :
    (script lib settings ai session visit).Ensures fun trace _ => Displays trace := by
  have single (widget : Widget V) (answer : Outcome Unit) :
      Displays [⟨.display widget, answer⟩] := (shown_single widget answer).1
  have pair (widget other : Widget V) (first last : Outcome Unit) :
      Displays [⟨.display widget, first⟩, ⟨.display other, last⟩] :=
    ((shown_single other last).cons widget first).1
  refine Program.ensures_call_bind (fun how => single _ _) fun _ => ?_
  have passed : (ofPage session (requirePassword settings visit.input) : Script V Bool).Ensures
      fun trace result => (∃ widget answer, trace = [⟨.display widget, answer⟩]) ∧ result ≠ .ok true := by
    refine Program.ensures_call_bind (fun how => ⟨⟨_, _, rfl⟩, nofun⟩) fun _ => ?_
    refine Program.ensures_done ⟨⟨_, _, rfl⟩, fun opened => ?_⟩
    refine closed ?_
    change ((gate settings session visit).1.mapError interruptOf) = .ok true at opened
    cases result : (gate settings session visit).1 with
    | ok value =>
      rw [result] at opened
      exact congrArg Except.ok (Except.ok.inj opened)
    | error how =>
      rw [result] at opened
      cases opened
  refine passed.bind ?_ ?_
  · rintro first how ⟨⟨widget, answer, rfl⟩, -⟩
    exact pair _ _ _ _
  · rintro first value ⟨⟨widget, answer, rfl⟩, shut⟩
    cases value with
    | true => exact absurd rfl shut
    | false => exact Program.ensures_done (pair _ _ _ _)

/-- While the password has not been submitted. -/
structure Locked (tab : Tab V) : Prop where
  unknown : ¬ authenticated tab.session = true
  still : tab.live = false
  quiet : Displays tab.log

theorem Locked.step (locked : Locked s) (configured : settings.dashboardPassword = some password)
    (nonempty : password ≠ "") (other : ¬ event.submits password) (moved : Moves lib settings ai s event t) :
    Locked t := by
  cases moved with
  | @load visit trace result after live run stored shown =>
    obtain ⟨closed, unchanged⟩ := gate_locked configured nonempty locked.unknown visit
    have same : after = s.session := stored.elim id fun gated => gated.trans (unchanged other)
    refine ⟨same ▸ locked.unknown, ?_, ?_⟩
    · exact Bool.eq_false_iff.mpr fun opened => closed (shown opened)
    · intro exchange member
      rcases List.mem_append.mp member with before | within
      · exact locked.quiet exchange before
      · exact script_locked lib ai closed trace result run exchange within
  | refresh live run =>
    rw [locked.still] at live
    cases live

theorem run_locked (configured : settings.dashboardPassword = some password) (nonempty : password ≠ "")
    (run : Run (Moves lib settings ai) {} events s) (others : ∀ event ∈ events, ¬ event.submits password) :
    Locked s := by
  induction run with
  | refl => exact ⟨Bool.false_ne_true, rfl, fun _ member => absurd member List.not_mem_nil⟩
  | @next before _ event _ run moved ih =>
    have locked := ih fun earlier member => others earlier (List.mem_append_left _ member)
    exact locked.step configured nonempty (others event (by simp)) moved

theorem run_tidy (run : Run (Moves lib settings ai) {} events s) :
    connections.watch .closed s.log = some .closed := by
  induction run with
  | refl => rfl
  | next run moved ih =>
    obtain ⟨trace, grown, watched, -⟩ := moved.log
    rw [grown]
    exact (Monitor.watch_append ih).trans watched

theorem run_paid (run : Run (Moves lib settings ai) {} events s) :
    Program.occurrences Query.completes s.log ≤ (events.map (Event.allowance ai)).sum := by
  induction run with
  | refl => exact Nat.zero_le _
  | next run moved ih =>
    obtain ⟨trace, grown, -, paid⟩ := moved.log
    rw [grown, Program.occurrences_append, List.map_append, List.sum_append, List.map_singleton,
      List.sum_singleton]
    exact Nat.add_le_add ih paid

/-- In every session, whatever the model and the database answer. -/
theorem session_accounted (run : Run (Moves lib settings ai) {} events s) :
    Accounted settings ai events s.log where
  tidy := run_tidy run
  paid := run_paid run
  locked _ configured nonempty others := (run_locked configured nonempty run others).quiet

end Sessions

/-! ### A sign-in and a question -/

def lockedSettings : Settings := { dashboardPassword := some "hunter2" }

def withGemini : LLMProvider.Settings := { geminiApiKey := some "key" }

/-- The button is pressed, behind the password or the question. -/
def press (label : String) : Visit :=
  { attempt "hunter2" with
    input := ⟨fun text => if text = "Password" then "hunter2" else "How many aircraft are there?", (· = label)⟩ }

def trackedRow : Relational.Row FlightsColumn SqlValue
  | .shared column => (Summary.inWind 8).modelDump column
  | .updatedAt => .timestamptz 1735410800000000

def sessionAnswers : (query : Query (Widget Int) Int) → Outcome query.Answer
  | .fetchall (.currentFlights _) => .ok [trackedRow]
  | query => countAnswers query

def signedIn : Session := (gate lockedSettings (fun _ => none) (press "Sign in")).2.session

def firstLoad : Script Int Unit := script countLibrary lockedSettings withGemini (fun _ => none) (press "Sign in")

def secondLoad : Script Int Unit := script countLibrary lockedSettings withGemini signedIn (press "Ask")

def refreshed : Script Int Unit := liveFragment lockedSettings none signedIn firstVisit

def signInTrace : Trace (Widget Int) Int := (firstLoad.play sessionAnswers).1

def askedTrace : Trace (Widget Int) Int := (secondLoad.play sessionAnswers).1

/-- The map is refreshed behind the question. -/
theorem session_accounted_question : ∃ (events : List (Event Int)) (tab : Tab Int),
    Run (Moves countLibrary lockedSettings withGemini) {} events tab ∧
      Program.occurrences Query.completes tab.log = 2 ∧ Accounted lockedSettings withGemini events tab.log := by
  have first : Moves countLibrary lockedSettings withGemini {}
      (.load (press "Sign in") signInTrace (firstLoad.play sessionAnswers).2) ⟨signedIn, false, signInTrace⟩ :=
    .load (Program.runs_play sessionAnswers firstLoad) (.inr rfl) nofun
  have second : Moves countLibrary lockedSettings withGemini ⟨signedIn, false, signInTrace⟩
      (.load (press "Ask") askedTrace (secondLoad.play sessionAnswers).2)
      ⟨signedIn, true, signInTrace ++ askedTrace⟩ :=
    .load (Program.runs_play sessionAnswers secondLoad) (.inl rfl) fun _ => by decide +kernel
  have third : Moves countLibrary lockedSettings withGemini ⟨signedIn, true, signInTrace ++ askedTrace⟩
      (.refresh firstVisit (refreshed.play sessionAnswers).1 (refreshed.play sessionAnswers).2)
      ⟨signedIn, true, signInTrace ++ askedTrace ++ (refreshed.play sessionAnswers).1⟩ :=
    .refresh rfl (Program.runs_play sessionAnswers refreshed)
  have run := ((Run.single first).next second).next third
  exact ⟨_, _, run, by decide +kernel, session_accounted run⟩

end Dashboard
end FlightHub
