import FlightHub.Dashboard.LivePanel

/-! The password gate of the dashboard, `_require_password` of `dashboard/app.py`,
and `main` behind it, over all runs of a session. A comparison with a text which
is not ASCII raises, so a guess or a password of other characters breaks the run. -/
namespace FlightHub
open Python Streamlit

namespace Dashboard

def isAscii (text : String) : Bool := text.toList.all fun c => c.toNat < 128

/-- `secrets.compare_digest` of two strings. -/
def compareDigest (a b : String) : Except Exception Bool :=
  if isAscii a && isAscii b then .ok (a = b) else .error .typeError

abbrev Session := String → Option Json

/-- `st.session_state.get("authenticated")`, as a condition. -/
def authenticated (session : Session) : Bool := (session "authenticated").any Json.truthy

def checkPassword (password dashboardPassword : String) : Page Bool := do
  let same ← ofExcept (compareDigest password dashboardPassword)
  if same then
    Page.sessionSet "authenticated" (.bool true)
    Page.interrupt .rerun
  else
    Page.emit (.error "Incorrect password")
    return false

def signIn (dashboardPassword : String) (input : Input) : Page Bool := do
  Page.emit (.title "🔒 Sign in")
  let password ← Page.textInput input "Password" "password"
  let clicked ← Page.button input "Sign in"
  if clicked && password ≠ "" then checkPassword password dashboardPassword
  else return false

def requirePassword (settings : Settings) (input : Input) : Page Bool := do
  let dashboardPassword := settings.dashboardPassword.getD ""
  if dashboardPassword = "" then return true
  else
    let flag ← Page.sessionGet "authenticated"
    if flag.any Json.truthy then return true
    else signIn dashboardPassword input

/-- A run of the script: its widgets, what the database returned, and what the
sidebar and the three other panels show. Those leave the session state alone. -/
structure Visit where
  input : Input
  now : Datetime
  /-- What Streamlit raises in place of an exception of a fragment. Not all releases
  do, and `pyproject.toml` admits both kinds. -/
  fragmentFault : Option Fault := none
  fetched : Except Fault (List EnrichedFlight)
  sidebar : List (Element Cell) × Except (Interrupt Fault) Unit
  panels : List (Element Cell) × Except (Interrupt Fault) Unit

def unreachable : String :=
  "Could not connect to PostgreSQL. Make sure the database is running " ++
  "and the ingestion/consumer services have had a chance to publish data."

/-- `main` from its title on. Its handler is not entered where the fragment has shown
the outage itself. -/
def behindGate (settings : Settings) (visit : Visit) : Page Unit := do
  Page.emit (.title "✈️ Real-Time Flight Data Integration Hub")
  Page.part visit.sidebar.1 visit.sidebar.2
  ((livePanel settings visit.now visit.fetched).fragment visit.fragmentFault).handle fun
    | .operationalError => some do
      Page.emit (.error unreachable)
      Page.interrupt .stop
    | _ => none
  Page.part visit.panels.1 visit.panels.2

def pageConfig : Element Cell := .pageConfig "Flight Data Integration Hub" "✈️" "wide"

def main (settings : Settings) (visit : Visit) : Page Unit := do
  Page.emit pageConfig
  let passed ← requirePassword settings visit.input
  if passed then behindGate settings visit else Page.interrupt .stop

/-! ### Sessions -/

def runMain (settings : Settings) (session : Session) (visit : Visit) :
    Except (Interrupt Fault) Unit × Screen Json Cell :=
  (main settings visit).run ⟨session, []⟩

/-- The session after some runs. A rerun is a run of its own. -/
def sessionAfter (settings : Settings) (visits : List Visit) : Session :=
  visits.foldl (fun session visit => (runMain settings session visit).2.session) fun _ => none

/-- The password which a run submits. -/
def Visit.submission (visit : Visit) : Option String :=
  if visit.input.clicked "Sign in" && visit.input.text "Password" ≠ "" then some (visit.input.text "Password")
  else none

/-- A run gets past `_require_password`. -/
def Passes (settings : Settings) (session : Session) (visit : Visit) : Prop :=
  ((requirePassword settings visit.input).run ⟨session, [pageConfig]⟩).1 = .ok true

def Submitted (password : String) (visits : List Visit) : Prop :=
  ∃ visit ∈ visits, visit.submission = some password

/-- The gate of a session, after each of its runs. -/
structure Gated (settings : Settings) (password : String) (visits : List Visit) : Prop where
  authenticated : ∀ earlier, earlier <+: visits →
    (authenticated (sessionAfter settings earlier) = true ↔ Submitted password earlier)
  passes : ∀ earlier visit, earlier ++ [visit] <+: visits →
    (Passes settings (sessionAfter settings earlier) visit ↔ Submitted password earlier)
  quiet : ∀ earlier visit, earlier ++ [visit] <+: visits → ¬ Submitted password earlier →
    ∀ fault, (runMain settings (sessionAfter settings earlier) visit).1 ≠ .error (.raised fault)
  unchanged : ∀ earlier visit, earlier ++ [visit] <+: visits → visit.submission ≠ some password →
    sessionAfter settings (earlier ++ [visit]) = sessionAfter settings earlier

/-- Up to the first submission of the password all are ASCII, and so is the
password if there is any. -/
def Comparable (password : String) (visits : List Visit) : Prop :=
  ∀ earlier visit guess, earlier ++ [visit] <+: visits → ¬ Submitted password earlier →
    visit.submission = some guess → isAscii guess = true ∧ isAscii password = true

/-! ### A run at the gate -/

/-- What `_require_password` answers to a submission where the session is not
authenticated, and the session which it leaves. -/
inductive Answers (password : String) (session : Session) :
    Option String → Except (Interrupt Fault) Bool → Session → Prop where
  | idle : Answers password session none (.ok false) session
  | failed {guess : String} (foreign : ¬ (isAscii guess = true ∧ isAscii password = true)) :
      Answers password session (some guess) (.error (.raised (.python .typeError))) session
  | accepted (ascii : isAscii password = true) :
      Answers password session (some password) (.error .rerun)
        (Function.update session "authenticated" (some (.bool true)))
  | rejected {guess : String} (ascii : isAscii guess = true ∧ isAscii password = true)
      (other : guess ≠ password) :
      Answers password session (some guess) (.ok false) session

section Answers
variable {password guess : String} {session next : Session} {submission : Option String}
  {result : Except (Interrupt Fault) Bool} {fault : Fault}

theorem Answers.ne_true (answers : Answers password session submission result next) : result ≠ .ok true := by
  cases answers <;> nofun

/-- Only the password changes the session, also where the comparison raises. -/
theorem Answers.unchanged (answers : Answers password session submission result next)
    (other : submission ≠ some password) : next = session := by
  cases answers with
  | idle => rfl
  | failed => rfl
  | accepted => exact absurd rfl other
  | rejected => rfl

theorem Answers.accepts (answers : Answers password session (some password) result next)
    (ascii : isAscii password = true) :
    next = Function.update session "authenticated" (some (.bool true)) := by
  cases answers with
  | failed foreign => exact absurd ⟨ascii, ascii⟩ foreign
  | accepted => rfl
  | rejected _ other => exact absurd rfl other

theorem Answers.raised_iff (answers : Answers password session submission result next) :
    (∃ fault, result = .error (.raised fault)) ↔
      ∃ guess, submission = some guess ∧ ¬ (isAscii guess = true ∧ isAscii password = true) := by
  cases answers with
  | idle => exact iff_of_false nofun nofun
  | @failed guess foreign => exact iff_of_true ⟨_, rfl⟩ ⟨guess, rfl, foreign⟩
  | accepted ascii =>
    refine iff_of_false nofun ?_
    rintro ⟨guess, same, foreign⟩
    cases same
    exact foreign ⟨ascii, ascii⟩
  | rejected ascii other =>
    refine iff_of_false nofun ?_
    rintro ⟨guess, same, foreign⟩
    cases same
    exact foreign ascii

end Answers

section Run
variable {settings : Settings} {password guess : String} {session : Session} {visit : Visit}
  {shown : List (Element Cell)}

theorem compareDigest_ok (ascii : isAscii guess = true ∧ isAscii password = true) :
    compareDigest guess password = .ok (guess = password) := by
  simp [compareDigest, ascii]

theorem compareDigest_error (foreign : ¬ (isAscii guess = true ∧ isAscii password = true)) :
    compareDigest guess password = .error .typeError := by
  rw [compareDigest, if_neg (by simpa using foreign)]

theorem run_requirePassword (configured : settings.dashboardPassword = some password)
    (nonempty : password ≠ "") (input : Input) : (requirePassword settings input).run ⟨session, shown⟩ =
      (if authenticated session = true then pure true else signIn password input : Page Bool).run
        ⟨session, shown⟩ := by
  have same : settings.dashboardPassword.getD "" = password := by rw [configured, Option.getD_some]
  simp only [requirePassword, same, if_neg nonempty, Page.run_bind, Page.run_sessionGet]
  rfl

theorem run_requirePassword_known (configured : settings.dashboardPassword = some password)
    (nonempty : password ≠ "") (known : authenticated session = true) (input : Input) :
    (requirePassword settings input).run ⟨session, shown⟩ = (.ok true, ⟨session, shown⟩) := by
  rw [run_requirePassword configured nonempty, if_pos known, Page.run_pure]

def signInForm : List (Element Cell) :=
  [.title "🔒 Sign in", .textInput "Password" "password", .button "Sign in"]

theorem run_signIn (password : String) (visit : Visit) (session : Session) (shown : List (Element Cell)) :
    (signIn password visit.input).run ⟨session, shown⟩ =
      (match visit.submission with
        | none => pure false
        | some guess => checkPassword guess password : Page Bool).run ⟨session, shown ++ signInForm⟩ := by
  simp only [signIn, Page.run_bind, Page.run_emit, Page.run_textInput, Page.run_button, Visit.submission,
    List.append_assoc, List.cons_append, List.nil_append]
  split <;> rfl

theorem runMain_known (configured : settings.dashboardPassword = some password)
    (nonempty : password ≠ "") (known : authenticated session = true) : runMain settings session visit =
      (behindGate settings visit).run ⟨session, [pageConfig]⟩ :=
  calc runMain settings session visit
    _ = _ := Page.run_bind_ok (Page.run_emit _ _)
    _ = _ := Page.run_bind_ok (run_requirePassword_known configured nonempty known visit.input)

theorem run_checkPassword (guess password : String) (screen : Screen Json Cell) :
    Answers password screen.session (some guess) ((checkPassword guess password).run screen).1
      ((checkPassword guess password).run screen).2.session := by
  by_cases ascii : isAscii guess = true ∧ isAscii password = true
  · rw [checkPassword, Page.run_bind_ok (run_ofExcept_ok (compareDigest_ok ascii))]
    by_cases same : guess = password
    · subst same
      rw [if_pos (by simp), Page.run_bind_ok (Page.run_sessionSet _ _ _), Page.run_interrupt]
      exact .accepted ascii.1
    · rw [if_neg (by simpa using same), Page.run_bind_ok (Page.run_emit _ _), Page.run_pure]
      exact .rejected ascii same
  · rw [checkPassword, Page.run_bind_error (run_ofExcept_error (compareDigest_error ascii))]
    exact .failed ascii

theorem run_requirePassword_answers (configured : settings.dashboardPassword = some password)
    (nonempty : password ≠ "") (unknown : ¬ authenticated session = true) (visit : Visit)
    (shown : List (Element Cell)) :
    Answers password session visit.submission ((requirePassword settings visit.input).run ⟨session, shown⟩).1
      ((requirePassword settings visit.input).run ⟨session, shown⟩).2.session := by
  rw [run_requirePassword configured nonempty, if_neg unknown, run_signIn]
  cases visit.submission with
  | none => exact .idle
  | some guess => exact run_checkPassword guess password ⟨session, shown ++ signInForm⟩

/-- A run at the gate stops there, when it has not raised or asked for a rerun. -/
theorem runMain_gate (configured : settings.dashboardPassword = some password) (nonempty : password ≠ "")
    (unknown : ¬ authenticated session = true) (visit : Visit) : runMain settings session visit =
      (requirePassword settings visit.input >>= fun _ => Page.interrupt .stop : Page Unit).run
        ⟨session, [pageConfig]⟩ := by
  have answers := run_requirePassword_answers configured nonempty unknown visit [pageConfig]
  have main : runMain settings session visit = _ := Page.run_bind_ok (Page.run_emit _ _)
  rw [main]
  match ran : (requirePassword settings visit.input).run ⟨session, [pageConfig]⟩ with
  | (.ok true, screen) =>
    rw [ran] at answers
    exact absurd rfl answers.ne_true
  | (.ok false, screen) =>
    rw [Page.run_bind_ok ran]
    exact (Page.run_bind_ok ran).trans rfl
  | (.error how, screen) => exact (Page.run_bind_error ran).trans (Page.run_bind_error ran).symm

theorem runMain_answers (configured : settings.dashboardPassword = some password)
    (nonempty : password ≠ "") (unknown : ¬ authenticated session = true) (visit : Visit) : ∃ result,
    Answers password session visit.submission result (runMain settings session visit).2.session ∧
      (runMain settings session visit).1 = result.bind fun _ => .error .stop := by
  have answers := run_requirePassword_answers configured nonempty unknown visit [pageConfig]
  rw [runMain_gate configured nonempty unknown]
  match ran : (requirePassword settings visit.input).run ⟨session, [pageConfig]⟩ with
  | (.ok passed, screen) =>
    rw [ran] at answers
    rw [Page.run_bind_ok ran]
    exact ⟨_, answers, rfl⟩
  | (.error how, screen) =>
    rw [ran] at answers
    rw [Page.run_bind_error ran]
    exact ⟨_, answers, rfl⟩

theorem keepsSession_behindGate (settings : Settings) (visit : Visit) :
    (behindGate settings visit).KeepsSession := by
  refine (Page.keepsSession_emit _).bind fun _ => (Page.keepsSession_part _ _).bind fun _ => ?_
  refine Page.KeepsSession.bind ?_ fun _ => Page.keepsSession_part _ _
  refine ((keepsSession_livePanel _ _ _).fragment _).handle fun exception handled chosen => ?_
  cases exception with
  | operationalError =>
    cases chosen
    exact (Page.keepsSession_emit _).bind fun _ => Page.keepsSession_interrupt _
  | _ => cases chosen

theorem passes_iff (configured : settings.dashboardPassword = some password) (nonempty : password ≠ "") :
    Passes settings session visit ↔ authenticated session = true := by
  by_cases known : authenticated session = true
  · rw [Passes, run_requirePassword_known configured nonempty known]
    exact iff_of_true rfl known
  · exact iff_of_false (run_requirePassword_answers configured nonempty known visit _).ne_true known

end Run

/-! ### Sessions -/

section Sessions
variable {settings : Settings} {password : String} {visits earlier : List Visit} {session : Session}
  {visit : Visit}

theorem sessionAfter_concat (settings : Settings) (earlier : List Visit) (visit : Visit) :
    sessionAfter settings (earlier ++ [visit]) =
      (runMain settings (sessionAfter settings earlier) visit).2.session := by
  rw [sessionAfter, List.foldl_concat]
  rfl

theorem submitted_concat : Submitted password (earlier ++ [visit]) ↔
    Submitted password earlier ∨ visit.submission = some password := by
  simp [Submitted, or_and_right, exists_or]

theorem session_runMain_of_ne (configured : settings.dashboardPassword = some password)
    (nonempty : password ≠ "") (other : visit.submission ≠ some password) :
    (runMain settings session visit).2.session = session := by
  by_cases known : authenticated session = true
  · rw [runMain_known configured nonempty known]
    exact keepsSession_behindGate settings visit _
  · obtain ⟨result, answers, -⟩ := runMain_answers configured nonempty known visit
    exact answers.unchanged other

theorem session_runMain_known (configured : settings.dashboardPassword = some password)
    (nonempty : password ≠ "") (known : authenticated session = true) :
    (runMain settings session visit).2.session = session := by
  rw [runMain_known configured nonempty known]
  exact keepsSession_behindGate settings visit _

/-- Where submissions are comparable, the session is authenticated once the
password has been submitted. -/
theorem authenticated_sessionAfter (configured : settings.dashboardPassword = some password)
    (nonempty : password ≠ "") (comparable : Comparable password visits) (begins : earlier <+: visits) :
    authenticated (sessionAfter settings earlier) = true ↔ Submitted password earlier := by
  induction earlier using List.reverseRecOn with
  | nil => simp [sessionAfter, authenticated, Submitted]
  | append_singleton earlier visit ih =>
    have before := ih ((List.prefix_append _ _).trans begins)
    rw [sessionAfter_concat, submitted_concat, ← before]
    by_cases known : authenticated (sessionAfter settings earlier) = true
    · rw [session_runMain_known configured nonempty known]
      exact iff_of_true known (.inl known)
    · by_cases same : visit.submission = some password
      · obtain ⟨-, ascii⟩ := comparable earlier visit password begins (mt before.mpr known) same
        obtain ⟨result, answers, -⟩ := runMain_answers configured nonempty known visit
        rw [same] at answers
        have accepted := answers.accepts ascii
        rw [accepted]
        exact iff_of_true rfl (.inr same)
      · rw [session_runMain_of_ne configured nonempty same]
        exact (or_iff_left same).symm

/-- A run at the gate raises exactly on a submission which cannot be compared. -/
theorem runMain_raised_iff (configured : settings.dashboardPassword = some password)
    (nonempty : password ≠ "") (unknown : ¬ authenticated session = true) :
    (∃ fault, (runMain settings session visit).1 = .error (.raised fault)) ↔
      ∃ guess, visit.submission = some guess ∧ ¬ (isAscii guess = true ∧ isAscii password = true) := by
  obtain ⟨result, answers, ends⟩ := runMain_answers configured nonempty unknown visit
  rw [← answers.raised_iff, ends]
  cases result with
  | ok passed => exact iff_of_false nofun nofun
  | error how => simp [Except.bind]

theorem gated_of_comparable (configured : settings.dashboardPassword = some password)
    (nonempty : password ≠ "") (comparable : Comparable password visits) :
    Gated settings password visits where
  authenticated earlier begins := authenticated_sessionAfter configured nonempty comparable begins
  passes earlier visit begins := (passes_iff configured nonempty).trans
    (authenticated_sessionAfter configured nonempty comparable ((List.prefix_append _ _).trans begins))
  quiet earlier visit begins closed fault raised := by
    have unknown := mt (authenticated_sessionAfter configured nonempty comparable
      ((List.prefix_append _ _).trans begins)).mp closed
    obtain ⟨guess, submitted, foreign⟩ := (runMain_raised_iff configured nonempty unknown).mp ⟨fault, raised⟩
    exact foreign (comparable earlier visit guess begins closed submitted)
  unchanged earlier visit begins other := by
    rw [sessionAfter_concat]
    exact session_runMain_of_ne configured nonempty other

theorem comparable_of_gated (configured : settings.dashboardPassword = some password)
    (nonempty : password ≠ "") (gated : Gated settings password visits) : Comparable password visits := by
  intro earlier visit guess begins closed submitted
  have unknown := mt (gated.authenticated earlier ((List.prefix_append _ _).trans begins)).mp closed
  by_contra foreign
  obtain ⟨fault, raised⟩ := (runMain_raised_iff configured nonempty unknown).mpr ⟨guess, submitted, foreign⟩
  exact gated.quiet earlier visit begins closed fault raised

theorem gated_iff_comparable (configured : settings.dashboardPassword = some password)
    (nonempty : password ≠ "") : Gated settings password visits ↔ Comparable password visits :=
  ⟨comparable_of_gated configured nonempty, gated_of_comparable configured nonempty⟩

def attempt (text : String) : Visit where
  input := ⟨fun _ => text, fun _ => true⟩
  now := firstVisit
  fetched := .ok []
  sidebar := ([], .ok ())
  panels := ([], .ok ())

theorem submission_attempt {text : String} (nonempty : text ≠ "") :
    (attempt text).submission = some text := by
  simp [Visit.submission, attempt, nonempty]

theorem gated_iff_comparable_hunter :
    Gated { dashboardPassword := some "hunter2" } "hunter2" [attempt "hunter1", attempt "hunter2"] := by
  refine (gated_iff_comparable rfl (by decide)).mpr fun earlier visit guess begins _ submitted => ?_
  have member : visit ∈ [attempt "hunter1", attempt "hunter2"] := begins.subset (by simp)
  simp only [List.mem_cons, List.not_mem_nil, or_false] at member
  obtain rfl | rfl := member
  · rw [submission_attempt (by decide)] at submitted
    cases submitted
    decide
  · rw [submission_attempt (by decide)] at submitted
    cases submitted
    decide

/-- A guess with an accent ends its run with a `TypeError`. -/
theorem not_gated_accent : ¬ Gated { dashboardPassword := some "hunter2" } "hunter2" [attempt "é"] := by
  intro gated
  have closed : ¬ Submitted "hunter2" [] := by simp [Submitted]
  have raises : ∃ fault, (runMain { dashboardPassword := some "hunter2" }
      (sessionAfter { dashboardPassword := some "hunter2" } []) (attempt "é")).1 = .error (.raised fault) :=
    (runMain_raised_iff rfl (by decide) (by decide)).mpr ⟨"é", submission_attempt (by decide), by decide⟩
  obtain ⟨fault, raised⟩ := raises
  exact gated.quiet [] (attempt "é") (List.prefix_refl _) closed fault raised

end Sessions

end Dashboard

end FlightHub
