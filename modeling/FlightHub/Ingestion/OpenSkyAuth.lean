import FlightHub.Common.Python
import FlightHub.Transition.Run
import Mathlib.Algebra.Order.Field.Rat
import Mathlib.Tactic.Linarith
import Mathlib.Tactic.NormNum

/-! OAuth2 client-credentials auth for the OpenSky API, `ingestion/opensky_auth.py`.
`_fetch_token` stores the expiry before it reads the token, so a response
without a token leaves the old token under the new expiry. Times are exact
rational seconds of the monotonic clock. -/
namespace FlightHub
open Python Transition

inductive TokenResponse where
  | transportError
  | errorStatus
  | notJson
  | json (payload : Json)

/-- One exchange with the endpoint; `received` is the clock after the response. -/
structure Exchange where
  response : TokenResponse
  received : ℚ

/-- `None` in `_token` is the JSON value `null`. -/
structure OpenSkyAuth where
  clientId : Option String
  clientSecret : Option String
  token : Json := .null
  expiresAt : ℚ := 0

namespace OpenSkyAuth

def expiryBufferSeconds : ℚ := 60

def isConfigured (auth : OpenSkyAuth) : Bool :=
  auth.clientId.any (· ≠ "") && auth.clientSecret.any (· ≠ "")

/-- `payload.get("expires_in", 1800)`, as the number which is added to the clock. -/
def expiresIn (payload : Json) : Except Exception ℚ := do
  match ← payload.get "expires_in" with
  | none => return 1800
  | some lifetime =>
    let seconds ← lifetime.number
    if doubleOverflow ≤ |seconds| then throw .overflowError
    return seconds

def fetchToken (exchange : Exchange) (auth : OpenSkyAuth) : Except Exception Json × OpenSkyAuth :=
  match exchange.response with
  | .transportError | .errorStatus => (.error .httpError, auth)
  | .notJson => (.error .jsonDecodeError, auth)
  | .json payload =>
    match expiresIn payload with
    | .error exception => (.error exception, auth)
    | .ok lifetime =>
      (payload.field "access_token", { auth with expiresAt := exchange.received + lifetime })

def cached (now : ℚ) (auth : OpenSkyAuth) : Bool :=
  auth.token.truthy && decide (now < auth.expiresAt - expiryBufferSeconds)

def getToken (now : ℚ) (exchange : Exchange) (auth : OpenSkyAuth) :
    Except Exception Json × OpenSkyAuth :=
  if auth.isConfigured = false then (.ok .null, auth)
  else if auth.cached now then (.ok auth.token, auth)
  else
    match auth.fetchToken exchange with
    | (.ok token, auth) => (.ok token, { auth with token })
    | (.error exception, auth) => (.error exception, auth)

/-- One call of `get_token`, with its exchange when it contacts the endpoint. -/
structure Call where
  now : ℚ
  exchange : Option Exchange

structure State where
  auth : OpenSkyAuth
  clock : ℚ

def initial (clientId clientSecret : Option String) (clock : ℚ) : State :=
  ⟨{ clientId, clientSecret }, clock⟩

def next (s : State) (call : Call) : Option State :=
  match call.exchange with
  | none =>
    if s.clock ≤ call.now ∧ s.auth.cached call.now = true then some { s with clock := call.now }
    else none
  | some exchange =>
    if s.clock ≤ call.now ∧ call.now ≤ exchange.received ∧ s.auth.cached call.now = false then
      some ⟨(s.auth.getToken call.now exchange).2, exchange.received⟩
    else none

/-- Among the calls is one whose response carried this token and this lifetime. -/
def Issued (calls : List Call) (token : Json) (received lifetime : ℚ) : Prop :=
  ∃ call ∈ calls, ∃ exchange payload, call.exchange = some exchange ∧
    exchange.response = .json payload ∧ payload.field "access_token" = .ok token ∧
      expiresIn payload = .ok lifetime ∧ exchange.received = received

/-- A token which is returned without contacting the endpoint was issued by a
response whose own lifetime has not run out. -/
def Sound (calls : List Call) (s : State) : Prop :=
  ∀ now exchange, s.clock ≤ now → s.auth.cached now = true →
    ∃ token received lifetime, s.auth.getToken now exchange = (.ok token, s.auth) ∧
      Issued calls token received lifetime ∧ now < received + lifetime - expiryBufferSeconds

/-- No response gives a lifetime above the buffer but no token while a token is stored. -/
def Complete (s : State) (call : Call) : Prop :=
  ∀ exchange payload lifetime, call.exchange = some exchange → exchange.response = .json payload →
    s.auth.token.truthy = true → expiresIn payload = .ok lifetime →
      (∃ token, payload.field "access_token" = .ok token) ∨ lifetime ≤ expiryBufferSeconds

/-- The steps of a configured client, one constructor for each branch. -/
inductive Step (s : State) : Call → State → Prop where
  | cached {now : ℚ} (later : s.clock ≤ now) (cached : s.auth.cached now = true) :
      Step s ⟨now, none⟩ { s with clock := now }
  | unchanged {now : ℚ} {exchange : Exchange} (later : s.clock ≤ now)
      (received : now ≤ exchange.received) (stale : s.auth.cached now = false)
      (useless : ∀ payload, exchange.response = .json payload → ∃ exception,
        expiresIn payload = .error exception) :
      Step s ⟨now, some exchange⟩ ⟨s.auth, exchange.received⟩
  | expiryOnly {now : ℚ} {exchange : Exchange} {payload : Json} {lifetime : ℚ}
      (later : s.clock ≤ now) (received : now ≤ exchange.received)
      (stale : s.auth.cached now = false) (answered : exchange.response = .json payload)
      (lives : expiresIn payload = .ok lifetime)
      (missing : payload.field "access_token" = .error exception) :
      Step s ⟨now, some exchange⟩
        ⟨{ s.auth with expiresAt := exchange.received + lifetime }, exchange.received⟩
  | refreshed {now : ℚ} {exchange : Exchange} {payload token : Json} {lifetime : ℚ}
      (later : s.clock ≤ now) (received : now ≤ exchange.received)
      (stale : s.auth.cached now = false) (answered : exchange.response = .json payload)
      (lives : expiresIn payload = .ok lifetime)
      (carried : payload.field "access_token" = .ok token) :
      Step s ⟨now, some exchange⟩
        ⟨{ s.auth with token, expiresAt := exchange.received + lifetime }, exchange.received⟩

variable {s t : State} {call : Call} {calls : List Call}

theorem next_step (configured : s.auth.isConfigured = true) (moved : next s call = some t) :
    Step s call t := by
  obtain ⟨now, exchange⟩ := call
  cases exchange with
  | none =>
    simp only [next, Option.ite_none_right_eq_some] at moved
    obtain ⟨⟨later, cached⟩, moved⟩ := moved
    cases moved
    exact .cached later cached
  | some exchange =>
    simp only [next, Option.ite_none_right_eq_some] at moved
    obtain ⟨⟨later, received, stale⟩, moved⟩ := moved
    cases moved
    simp only [getToken, configured, stale, Bool.true_eq_false, Bool.false_eq_true, if_false,
      fetchToken]
    cases answered : exchange.response with
    | json payload =>
      cases lives : expiresIn payload with
      | error exception =>
        simp only [lives]
        refine .unchanged later received stale fun other same => ?_
        obtain rfl := TokenResponse.json.inj (answered.symm.trans same)
        exact ⟨exception, lives⟩
      | ok lifetime =>
        cases carried : payload.field "access_token" with
        | error exception =>
          simp only [lives, carried]
          exact .expiryOnly later received stale answered lives carried
        | ok token =>
          simp only [lives, carried]
          exact .refreshed later received stale answered lives carried
    | _ =>
      refine .unchanged later received stale fun payload same => ?_
      exact absurd (answered.symm.trans same) nofun

theorem Step.configured (step : Step s call t) (configured : s.auth.isConfigured = true) :
    t.auth.isConfigured = true := by
  cases step <;> exact configured

theorem Step.clock (step : Step s call t) : s.clock ≤ t.clock := by
  cases step with
  | cached later _ => exact later
  | unchanged later received _ _ => exact later.trans received
  | expiryOnly later received _ _ _ _ => exact later.trans received
  | refreshed later received _ _ _ _ => exact later.trans received

theorem Issued.mono {token : Json} {received lifetime : ℚ}
    (issued : Issued calls token received lifetime) (call : Call) :
    Issued (calls ++ [call]) token received lifetime := by
  obtain ⟨earlier, member, rest⟩ := issued
  exact ⟨earlier, List.mem_append_left _ member, rest⟩

/-- `own`: unless the stored expiry has passed, it is that of the response which
issued the stored token. `others`: every other token has run out. -/
structure Inv (calls : List Call) (s : State) : Prop where
  configured : s.auth.isConfigured = true
  own : s.auth.token.truthy = true →
    (∃ received lifetime, Issued calls s.auth.token received lifetime ∧
      s.auth.expiresAt = received + lifetime) ∨
      s.auth.expiresAt - expiryBufferSeconds ≤ s.clock
  others : ∀ token received lifetime, Issued calls token received lifetime → token.truthy = true →
    (s.auth.token = token ∧ s.auth.expiresAt = received + lifetime) ∨
      received + lifetime - expiryBufferSeconds ≤ s.clock

theorem expired_of_stale {auth : OpenSkyAuth} {now : ℚ} (stale : auth.cached now = false)
    (present : auth.token.truthy = true) : auth.expiresAt - expiryBufferSeconds ≤ now := by
  simpa only [cached, present, Bool.true_and, decide_eq_false_iff_not, not_lt] using stale

/-- A call which contacts the endpoint finds every issued token run out. -/
theorem Inv.run_out (inv : Inv calls s) {now : ℚ} (later : s.clock ≤ now)
    (stale : s.auth.cached now = false) {token : Json} {received lifetime : ℚ}
    (issued : Issued calls token received lifetime) (present : token.truthy = true) :
    received + lifetime - expiryBufferSeconds ≤ now := by
  rcases inv.others token received lifetime issued present with ⟨rfl, own⟩ | passed
  · exact own ▸ expired_of_stale stale present
  · exact passed.trans later

/-- A call contacts the endpoint in vain: every token stays run out. -/
theorem Inv.others_stale (inv : Inv calls s) {now : ℚ} {exchange : Exchange}
    (later : s.clock ≤ now) (received : now ≤ exchange.received)
    (stale : s.auth.cached now = false)
    (tokenless : ∀ payload token lifetime, exchange.response = .json payload →
      payload.field "access_token" = .ok token → expiresIn payload ≠ .ok lifetime)
    {token : Json} {at_time lifetime : ℚ}
    (issued : Issued (calls ++ [⟨now, some exchange⟩]) token at_time lifetime)
    (present : token.truthy = true) :
    at_time + lifetime - expiryBufferSeconds ≤ exchange.received := by
  obtain ⟨call, member, earlier, payload, held, answered, carried, lives, same⟩ := issued
  rcases List.mem_append.mp member with before | last
  · have issued : Issued calls token at_time lifetime :=
      ⟨call, before, earlier, payload, held, answered, carried, lives, same⟩
    exact (inv.run_out later stale issued present).trans received
  · obtain rfl := List.mem_singleton.mp last
    cases held
    exact absurd lives (tokenless payload token lifetime answered carried)

theorem Inv.step (inv : Inv calls s) (step : Step s call t) (complete : Complete s call) :
    Inv (calls ++ [call]) t := by
  have configured := step.configured inv.configured
  cases step with
  | @cached now later cached =>
    refine ⟨configured, fun present => ?_, fun token received lifetime issued present => ?_⟩
    · rcases inv.own present with ⟨received, lifetime, issued, same⟩ | passed
      · exact .inl ⟨received, lifetime, issued.mono _, same⟩
      · exact .inr (passed.trans later)
    · obtain ⟨earlier, member, exchange, payload, held, rest⟩ := issued
      rcases List.mem_append.mp member with before | last
      · have issued : Issued calls token received lifetime :=
          ⟨earlier, before, exchange, payload, held, rest⟩
        exact (inv.others token received lifetime issued present).imp_right (·.trans later)
      · rw [List.mem_singleton.mp last] at held
        cases held
  | @unchanged now exchange later received stale useless =>
    refine ⟨configured, fun present => .inr ?_, fun token time lifetime issued present => .inr ?_⟩
    · exact (expired_of_stale stale present).trans received
    · refine inv.others_stale later received stale ?_ issued present
      intro payload _ lifetime answered _ lives
      obtain ⟨exception, failed⟩ := useless payload answered
      exact absurd (failed.symm.trans lives) nofun
  | @expiryOnly exception now exchange payload lifetime later received stale answered lives missing =>
    refine ⟨configured, fun present => .inr ?_, fun token time life issued present => .inr ?_⟩
    · rcases complete exchange payload lifetime rfl answered present lives with ⟨token, carried⟩ | short
      · exact absurd (missing.symm.trans carried) nofun
      · change exchange.received + lifetime - expiryBufferSeconds ≤ exchange.received
        linarith
    · refine inv.others_stale later received stale ?_ issued present
      intro other _ _ same carried
      obtain rfl := TokenResponse.json.inj (answered.symm.trans same)
      exact absurd (missing.symm.trans carried) nofun
  | @refreshed now exchange payload token lifetime later received stale answered lives carried =>
    have own : Issued (calls ++ [⟨now, some exchange⟩]) token exchange.received lifetime :=
      ⟨_, List.mem_append_right _ (List.mem_singleton.mpr rfl), exchange, payload, rfl, answered,
        carried, lives, rfl⟩
    refine ⟨configured, fun present => .inl ⟨_, _, own, rfl⟩,
      fun other time life issued present => ?_⟩
    obtain ⟨earlier, member, before, read, held, replied, taken, lasts, same⟩ := issued
    rcases List.mem_append.mp member with old | last
    · have issued : Issued calls other time life :=
        ⟨earlier, old, before, read, held, replied, taken, lasts, same⟩
      exact .inr ((inv.run_out later stale issued present).trans received)
    · obtain rfl := List.mem_singleton.mp last
      cases held
      obtain rfl := TokenResponse.json.inj (answered.symm.trans replied)
      obtain rfl := Except.ok.inj (carried.symm.trans taken)
      obtain rfl := Except.ok.inj (lives.symm.trans lasts)
      exact .inl ⟨rfl, same ▸ rfl⟩

theorem Inv.sound (inv : Inv calls s) : Sound calls s := by
  intro now exchange later fresh
  have returned : s.auth.getToken now exchange = (.ok s.auth.token, s.auth) := by
    simp only [getToken, inv.configured, fresh, Bool.true_eq_false, if_false, if_true]
  simp only [cached, Bool.and_eq_true, decide_eq_true_eq] at fresh
  obtain ⟨present, bound⟩ := fresh
  rcases inv.own present with ⟨received, lifetime, issued, same⟩ | passed
  · exact ⟨s.auth.token, received, lifetime, returned, issued, same ▸ bound⟩
  · exact absurd bound (not_lt.mpr (passed.trans later))

/-- A response which breaks the condition leaves the old token in use. -/
theorem Inv.complete (inv : Inv calls s) (step : Step s call t) (sound : Sound (calls ++ [call]) t) :
    Complete s call := by
  intro exchange payload lifetime held answered present lives
  cases step with
  | cached _ _ => cases held
  | unchanged _ _ _ useless =>
    cases held
    obtain ⟨exception, failed⟩ := useless payload answered
    exact absurd (failed.symm.trans lives) nofun
  | refreshed _ _ _ replied _ carried =>
    cases held
    obtain rfl := TokenResponse.json.inj (answered.symm.trans replied)
    exact .inl ⟨_, carried⟩
  | @expiryOnly exception now _ read life later received stale replied lasts missing =>
    cases held
    obtain rfl := TokenResponse.json.inj (answered.symm.trans replied)
    obtain rfl := Except.ok.inj (lives.symm.trans lasts)
    refine .inr (not_lt.mp fun long => ?_)
    have fresh : cached exchange.received
        { s.auth with expiresAt := exchange.received + lifetime } = true := by
      simp only [cached, present, Bool.true_and, decide_eq_true_eq]
      linarith
    obtain ⟨token, time, own, returned, issued, bound⟩ :=
      sound exchange.received exchange (le_refl _) fresh
    have same : s.auth.token = token := by
      have configured : OpenSkyAuth.isConfigured
        { s.auth with expiresAt := exchange.received + lifetime } = true := inv.configured
      simp only [getToken, configured, fresh, Bool.true_eq_false, if_false, if_true, Prod.mk.injEq,
        Except.ok.injEq, and_true] at returned
      exact returned
    have passed := inv.others_stale later received stale (fun other _ _ reply carried => by
      obtain rfl := TokenResponse.json.inj (answered.symm.trans reply)
      exact absurd (missing.symm.trans carried) nofun) issued (same ▸ present)
    exact absurd bound (not_lt.mpr passed)

theorem run_inv {clientId clientSecret : Option String} {clock : ℚ}
    (configured : (initial clientId clientSecret clock).auth.isConfigured = true)
    (run : Run (Meeting (Steps next) Complete) (initial clientId clientSecret clock) calls s) :
    Inv calls s := by
  induction run with
  | refl =>
    refine ⟨configured, fun present => ?_, ?_⟩
    · cases present
    · rintro _ _ _ ⟨_, member, _⟩ _
      cases member
  | next _ moved ih => exact ih.step (next_step ih.configured moved.1) moved.2

/-- While no response gives a lifetime without a token, every token which is
served from the cache is within its own lifetime; a further call keeps it so
exactly when its response does not either. -/
theorem cached_token_sound {clientId clientSecret : Option String} {clock : ℚ}
    (configured : (initial clientId clientSecret clock).auth.isConfigured = true)
    (run : Run (Meeting (Steps next) Complete) (initial clientId clientSecret clock) calls s) :
    Sound calls s ∧ ∀ call t, next s call = some t →
      (Sound (calls ++ [call]) t ↔ Complete s call) := by
  have inv := run_inv configured run
  refine ⟨inv.sound, fun call t moved => ?_⟩
  have step := next_step inv.configured moved
  exact ⟨inv.complete step, fun complete => (inv.step step complete).sound⟩

private def granted (token : String) (lifetime : Int) : TokenResponse :=
  .json (.obj [("access_token", .str token), ("expires_in", .int lifetime)])

private def opened : State := initial (some "client") (some "secret") 0

private def refreshes : List Call :=
  [⟨0, some ⟨granted "first" 1800, 1⟩⟩, ⟨1000, none⟩, ⟨1741, some ⟨.transportError, 1742⟩⟩,
    ⟨1743, some ⟨granted "second" 1800, 1744⟩⟩]

private def withoutToken : List Call :=
  [⟨0, some ⟨granted "first" 1800, 1⟩⟩,
    ⟨1741, some ⟨.json (.obj [("expires_in", .int 1800)]), 1742⟩⟩]

private def carriesToken (_ : State) (call : Call) : Bool :=
  call.exchange.all fun exchange =>
    match exchange.response with
    | .json payload => (payload.field "access_token").isOk
    | _ => true

private theorem carriesToken_sound (s : State) (call : Call) (checked : carriesToken s call = true) :
    Complete s call := by
  intro exchange payload lifetime held answered _ _
  simp only [carriesToken, held, Option.all_some, answered] at checked
  cases carried : payload.field "access_token" with
  | error exception =>
    rw [carried] at checked
    cases checked
  | ok token => exact .inl ⟨token, rfl⟩

theorem cached_token_sound_refreshes : ∃ s,
    Run (Meeting (Steps next) Complete) opened refreshes s ∧ Sound refreshes s ∧
      ∀ call t, next s call = some t → (Sound (refreshes ++ [call]) t ↔ Complete s call) := by
  have passed : (replay (guarded next carriesToken) opened refreshes).any (fun _ => true) = true := by
    decide +kernel
  obtain ⟨s, run, _⟩ := run_of_test passed
  have run := run.of_guarded carriesToken_sound
  exact ⟨s, run, cached_token_sound (by decide) run⟩

private theorem only_first {token : Json} {received lifetime : ℚ}
    (issued : Issued withoutToken token received lifetime) : received = 1 ∧ lifetime = 1800 := by
  obtain ⟨call, member, exchange, payload, held, answered, carried, lives, rfl⟩ := issued
  simp only [withoutToken, List.mem_cons, List.not_mem_nil, or_false] at member
  rcases member with rfl | rfl
  · cases held
    cases answered
    have stated : expiresIn (.obj [("access_token", .str "first"), ("expires_in", .int 1800)]) =
        .ok 1800 := by decide +kernel
    exact ⟨rfl, Except.ok.inj (lives.symm.trans stated)⟩
  · cases held
    cases answered
    cases carried

/-- The token of the first response is served after its 1800 s. -/
theorem stale_token_served :
    ¬ ∀ clientId clientSecret clock,
      (initial clientId clientSecret clock).auth.isConfigured = true →
        ∀ calls s, Run (Steps next) (initial clientId clientSecret clock) calls s →
          Sound calls s := by
  intro sound
  have passed : (replay next opened withoutToken).any
      (fun s => s.clock ≤ 1742 ∧ s.auth.cached 1742 = true) = true := by decide +kernel
  obtain ⟨s, run, served⟩ := run_of_test passed
  obtain ⟨clock, cached⟩ := of_decide_eq_true served
  obtain ⟨token, received, lifetime, _, issued, bound⟩ :=
    sound _ _ _ (by decide) _ s run 1742 ⟨.transportError, 1742⟩ clock cached
  obtain ⟨rfl, rfl⟩ := only_first issued
  norm_num [expiryBufferSeconds] at bound

end OpenSkyAuth
end FlightHub
