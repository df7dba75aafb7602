import FlightHub.Common.Acceptance
import FlightHub.Common.Http
import FlightHub.Ingestion.OpenSkyAuth
import Mathlib.Data.List.Basic
import Mathlib.Data.List.Forall2

/-! The poll of `/states/all`, `ingestion/opensky_client.py`: a token, the
request, up to five attempts while the answer is 429, and the loop which skips
the entries whose errors it catches. -/
namespace FlightHub
open Python

structure OpenSkyClient where
  baseUrl : String
  lamin : ℚ
  lamax : ℚ
  lomin : ℚ
  lomax : ℚ
  auth : Option OpenSkyAuth := none

namespace OpenSkyClient

def init (baseUrl : String) (bbox : ℚ × ℚ × ℚ × ℚ) (auth : Option OpenSkyAuth) : OpenSkyClient where
  baseUrl := String.ofList (rstripWith (· = '/') baseUrl.toList)
  lamin := bbox.1
  lamax := bbox.2.1
  lomin := bbox.2.2.1
  lomax := bbox.2.2.2
  auth

/-- `bearer` is the token of the `Authorization` header. -/
structure Request where
  url : String
  params : List (String × ℚ)
  bearer : Option Json

/-- What one attempt meets: the clock, the token endpoint and OpenSky. -/
structure Attempt where
  now : ℚ
  exchange : Exchange
  http : Request → Http.Outcome

def getToken (met : Attempt) (client : OpenSkyClient) : Except Exception Json × OpenSkyClient :=
  match client.auth with
  | none => (.ok .null, client)
  | some auth =>
    let (token, auth) := auth.getToken met.now met.exchange
    (token, { client with auth := some auth })

def request (client : OpenSkyClient) (token : Json) : Request where
  url := client.baseUrl ++ "/states/all"
  params := [("lamin", client.lamin), ("lamax", client.lamax), ("lomin", client.lomin),
    ("lomax", client.lomax)]
  bearer := if token.truthy then some token else none

/-- The request of one attempt, up to the parsed payload. -/
def receive (met : Attempt) (client : OpenSkyClient) : Except Exception Json := do
  let token ← (client.getToken met).1
  match met.http (client.request token) with
  | .response 429 _ => throw .rateLimitedError
  | outcome => outcome.json

/-- `payload.get("states") or []`, as the values which the loop goes through. -/
def rawStates (payload : Json) : Except Exception (List Json) := do
  let states := (← payload.get "states").getD .null
  match if states.truthy then states else .arr [] with
  | .arr entries => return entries
  | .str text => return text.toList.map (.str ∘ String.singleton)
  | .obj fields => return fields.map (.str ∘ Prod.fst)
  | _ => throw .typeError

/-- `except (ValueError, IndexError, TypeError)`. -/
def skipped : Exception → Bool
  | .valueError _ | .validationError _ | .jsonDecodeError | .indexError | .typeError => true
  | _ => false

section Functions
variable (pydantic : Pydantic)

def readStates : List Json → Except Exception (List StateVector)
  | [] => .ok []
  | raw :: rest =>
    match StateVector.fromArray pydantic raw with
    | .ok state => (state :: ·) <$> readStates rest
    | .error exception => if skipped exception then readStates rest else .error exception

/-- The client as attempt `k` finds it: each attempt asks for a token. -/
def before (mets : Nat → Attempt) (client : OpenSkyClient) : Nat → OpenSkyClient
  | 0 => client
  | k + 1 => ((before mets client k).getToken (mets k)).2

def isRateLimited (exception : Exception) : Bool := exception = .rateLimitedError

def received (mets : Nat → Attempt) (client : OpenSkyClient) (k : Nat) : Except Exception Json :=
  (before mets client k).receive (mets k)

def fetchStates (mets : Nat → Attempt) (client : OpenSkyClient) : Except Exception (List StateVector) :=
  Tenacity.retry isRateLimited 5 fun k => do
    let entries ← rawStates (← received mets client k)
    readStates pydantic entries

end Functions

/-- Attempt after attempt is answered 429 until one of the five is answered with `payload`. -/
def Answered (mets : Nat → Attempt) (client : OpenSkyClient) (payload : Json) : Prop :=
  ∃ last < 5, (∀ k < last, received mets client k = .error .rateLimitedError) ∧
    received mets client last = .ok payload

/-- An array of at least 17 elements whose values have the types of the fields. -/
def isWellFormed : Json → Bool
  | .arr items => Index.minLength ≤ items.length && StateVector.typed items
  | _ => false

/-- The well-formed entries are returned as their state vectors, in their order
and each once, and nothing is returned for the others. -/
def Skips (pydantic : Pydantic) (entries : List Json) (result : Except Exception (List StateVector)) :
    Prop :=
  ∃ states, result = .ok states ∧
    List.Forall₂ (fun raw state => StateVector.fromArray pydantic raw = .ok state)
      (entries.filter isWellFormed) states

/-- The state vector which the loop makes of an entry, unless this raises. -/
def loaded (pydantic : Pydantic) : Json → Option StateVector
  | .arr items =>
    if Index.minLength ≤ items.length then (StateVector.Arguments.ofArray items).read pydantic
    else none
  | _ => none

/-- The state vector of a well-formed entry. -/
def wellFormed (pydantic : Pydantic) (raw : Json) : Option StateVector :=
  if isWellFormed raw then loaded pydantic raw else none

/-- An entry which is an object long enough to be indexed. -/
def isLongObject : Json → Bool
  | .obj fields => Index.minLength ≤ fields.length
  | _ => false

/-- The loop keeps the entry if it is loaded, and catches what it raises otherwise. -/
def Handled (pydantic : Pydantic) (raw : Json) : Prop :=
  match loaded pydantic raw with
  | some state => StateVector.fromArray pydantic raw = .ok state
  | none => ∃ exception, StateVector.fromArray pydantic raw = .error exception ∧
      skipped exception = true

section Entries
variable {pydantic : Pydantic}

theorem handled_arr (items : List Json) : Handled pydantic (.arr items) := by
  by_cases long : Index.minLength ≤ items.length
  · simp only [Handled, loaded, if_pos long, StateVector.fromArray_long long,
      StateVector.validate]
    cases (StateVector.Arguments.ofArray items).read pydantic with
    | none => exact ⟨_, rfl, rfl⟩
    | some state => rfl
  · obtain ⟨message, raised⟩ := @StateVector.fromArray_short pydantic items (Nat.not_le.mp long)
    simp only [Handled, loaded, if_neg long]
    exact ⟨_, raised, rfl⟩

/-- A string is indexed like the array of its characters. -/
theorem fromArray_str (text : String) :
    StateVector.fromArray pydantic (.str text) =
      StateVector.fromArray pydantic (.arr (text.toList.map (.str ∘ String.singleton))) := by
  have item (index : Nat) : Json.item index (.str text) =
      Json.item index (.arr (text.toList.map (.str ∘ String.singleton))) := by
    simp only [Json.item, List.getElem?_map]
    cases text.toList[index]? <;> rfl
  have length : Json.len (.str text) =
      Json.len (.arr (text.toList.map (.str ∘ String.singleton))) := by
    simp only [Json.len, List.length_map]
  simp only [StateVector.fromArray, item, length]

/-- The sensors are a character, which is no list. -/
theorem characters_unloaded (characters : ∀ text, pydantic.listInt (.str text) = none)
    (text : String) : loaded pydantic (.arr (text.toList.map (.str ∘ String.singleton))) = none := by
  rw [loaded, ite_eq_right_iff]
  intro long
  rw [Option.eq_none_iff_forall_ne_some]
  intro state read
  have sensors := (StateVector.Arguments.reads_of_read read).sensors
  have bound : Index.sensors < (text.toList.map (Json.str ∘ String.singleton)).length :=
    Nat.lt_of_lt_of_le (by decide) long
  simp only [StateVector.Arguments.ofArray, List.getD_eq_getElem _ _ bound, List.getElem_map,
    Function.comp_apply, optional, characters, Option.map_none, reduceCtorEq] at sensors

theorem handled_str (characters : ∀ text, pydantic.listInt (.str text) = none) (text : String) :
    Handled pydantic (.str text) := by
  have handled := @handled_arr pydantic (text.toList.map (.str ∘ String.singleton))
  rw [Handled, characters_unloaded characters, ← fromArray_str] at handled
  exact handled

theorem handled_short_object {fields : List (String × Json)}
    (short : fields.length < Index.minLength) : Handled pydantic (.obj fields) := by
  simp only [Handled, loaded, StateVector.fromArray, Json.len, bind, Except.bind, short, if_true]
  exact ⟨_, rfl, rfl⟩

theorem fromArray_long_object {fields : List (String × Json)}
    (long : Index.minLength ≤ fields.length) :
    StateVector.fromArray pydantic (.obj fields) = .error (.keyError "1") := by
  simp only [StateVector.fromArray, Json.len, bind, Except.bind, Nat.not_lt.mpr long, if_false,
    Json.item]
  rfl

theorem handled (characters : ∀ text, pydantic.listInt (.str text) = none) {raw : Json}
    (small : isLongObject raw = false) : Handled pydantic raw := by
  cases raw with
  | null | bool _ | int _ | float _ => exact ⟨.typeError, rfl, rfl⟩
  | str text => exact handled_str characters text
  | arr items => exact handled_arr items
  | obj fields =>
    apply handled_short_object
    simpa only [isLongObject, decide_eq_false_iff_not, Nat.not_le] using small

theorem Handled.readStates_cons {raw : Json} (handled : Handled pydantic raw) (rest : List Json) :
    readStates pydantic (raw :: rest) =
      ((loaded pydantic raw).toList ++ ·) <$> readStates pydantic rest := by
  unfold Handled at handled
  split at handled
  · next state read => simp only [readStates, handled, read, Option.toList_some, List.singleton_append]
  · next unread =>
    obtain ⟨exception, raised, caught⟩ := handled
    simp only [readStates, raised, caught, if_true, unread, Option.toList_none, List.nil_append,
      id_map']

theorem readStates_of_small (characters : ∀ text, pydantic.listInt (.str text) = none)
    {entries : List Json} (small : ∀ raw ∈ entries, isLongObject raw = false) :
    readStates pydantic entries = .ok (entries.filterMap (loaded pydantic)) := by
  induction entries with
  | nil => rfl
  | cons raw rest ih =>
    obtain ⟨first, others⟩ := List.forall_mem_cons.mp small
    rw [(handled characters first).readStates_cons, ih others]
    cases read : loaded pydantic raw with
    | none => simp only [List.filterMap_cons_none read]; rfl
    | some state => simp only [List.filterMap_cons_some read]; rfl

theorem readStates_of_long (characters : ∀ text, pydantic.listInt (.str text) = none)
    {entries : List Json} (long : ∃ raw ∈ entries, isLongObject raw = true) :
    readStates pydantic entries = .error (.keyError "1") := by
  induction entries with
  | nil => simp at long
  | cons raw rest ih =>
    cases first : isLongObject raw with
    | true =>
      cases raw with
      | obj fields =>
        rw [readStates, fromArray_long_object (of_decide_eq_true first)]
        rfl
      | _ => cases first
    | false =>
      have later : ∃ raw ∈ rest, isLongObject raw = true := by
        simpa only [List.mem_cons, exists_eq_or_imp, first, Bool.false_eq_true, false_or] using long
      rw [(handled characters first).readStates_cons, ih later]
      rfl

theorem small_of_short {entries : List Json}
    (short : ∀ fields, .obj fields ∈ entries → fields.length < Index.minLength) :
    ∀ raw ∈ entries, isLongObject raw = false := by
  intro raw member
  cases raw with
  | obj fields => exact decide_eq_false (Nat.not_le.mpr (short fields member))
  | _ => rfl

/-- Where one function finds less than another, they find the same in a list only
if they agree on all its members. -/
theorem filterMap_eq_iff {α β : Type} {found less : α → Option β}
    (below : ∀ item, less item = none ∨ less item = found item) {items : List α} :
    items.filterMap found = items.filterMap less ↔ ∀ item ∈ items, found item = less item := by
  have shorter (items : List α) : (items.filterMap less).length ≤ (items.filterMap found).length := by
    induction items with
    | nil => exact Nat.le_refl 0
    | cons item rest ih =>
      rcases below item with none_found | same
      · rw [List.filterMap_cons_none none_found]
        exact ih.trans ((List.sublist_cons_self item rest).filterMap found).length_le
      · rw [List.filterMap_cons, List.filterMap_cons, same]
        cases found item with
        | none => exact ih
        | some value => exact Nat.succ_le_succ ih
  constructor
  · intro same
    induction items with
    | nil => exact fun item member => absurd member List.not_mem_nil
    | cons item rest ih =>
      have agree : found item = less item := by
        by_contra differ
        have unfound := (below item).resolve_right fun same => differ same.symm
        obtain ⟨value, read⟩ :=
          Option.ne_none_iff_exists'.mp fun none_found => differ (none_found.trans unfound.symm)
        rw [List.filterMap_cons_some read, List.filterMap_cons_none unfound] at same
        have longer := congrArg List.length same
        have bound := shorter rest
        rw [List.length_cons] at longer
        omega
      refine List.forall_mem_cons.mpr ⟨agree, ih ?_⟩
      rw [List.filterMap_cons, List.filterMap_cons, agree] at same
      cases read : less item with
      | none => simpa only [read] using same
      | some value =>
        rw [read] at same
        exact (List.cons.inj same).2
  · exact List.filterMap_congr

theorem rawStates_of_list {payload : Json} {entries : List Json}
    (listed : payload.get "states" = .ok (some (.arr entries))) : rawStates payload = .ok entries := by
  cases entries <;> simp only [rawStates, listed, bind, Except.bind] <;> rfl

theorem fetchStates_answered {mets : Nat → Attempt} {client : OpenSkyClient} {payload : Json}
    {entries : List Json} (answered : Answered mets client payload)
    (listed : payload.get "states" = .ok (some (.arr entries)))
    (settled : Tenacity.retried isRateLimited (readStates pydantic entries) = false) :
    fetchStates pydantic mets client = readStates pydantic entries := by
  obtain ⟨last, bound, limited, received⟩ := answered
  rw [fetchStates, Tenacity.retry_eq bound]
  · simp only [received, bind, Except.bind, rawStates_of_list listed]
  · intro k small
    simp only [limited k small, bind, Except.bind]
    rfl
  · right
    simpa only [received, bind, Except.bind, rawStates_of_list listed] using settled

theorem fetchStates_ok_iff {mets : Nat → Attempt} {client : OpenSkyClient} {payload : Json}
    {entries : List Json} {states : List StateVector}
    (characters : ∀ text, pydantic.listInt (.str text) = none)
    (answered : Answered mets client payload)
    (listed : payload.get "states" = .ok (some (.arr entries))) :
    fetchStates pydantic mets client = .ok states ↔
      (∀ fields, .obj fields ∈ entries → fields.length < Index.minLength) ∧
        entries.filterMap (loaded pydantic) = states := by
  constructor
  · intro returned
    have short : ∀ fields, .obj fields ∈ entries → fields.length < Index.minLength := by
      intro fields member
      by_contra long
      have raised := readStates_of_long characters
        ⟨_, member, decide_eq_true (Nat.not_lt.mp long)⟩
      rw [fetchStates_answered answered listed (by rw [raised]; rfl), raised] at returned
      cases returned
    refine ⟨short, ?_⟩
    have read := readStates_of_small characters (small_of_short short)
    rw [fetchStates_answered answered listed (by rw [read]; rfl), read] at returned
    exact Except.ok.inj returned
  · rintro ⟨short, rfl⟩
    have read := readStates_of_small characters (small_of_short short)
    rw [fetchStates_answered answered listed (by rw [read]; rfl), read]

theorem wellFormed_loaded (raw : Json) :
    wellFormed pydantic raw = none ∨ wellFormed pydantic raw = loaded pydantic raw := by
  cases known : isWellFormed raw with
  | true => exact .inr (if_pos known)
  | false => exact .inl (if_neg (Bool.not_eq_true _ ▸ known))

/-- A well-formed entry is accepted, as the state vector which is loaded. -/
theorem wellFormed_fromArray (lax : pydantic.Lax) {raw : Json} (known : isWellFormed raw = true) :
    ∃ state, wellFormed pydantic raw = some state ∧ StateVector.fromArray pydantic raw = .ok state := by
  cases raw with
  | arr items =>
    obtain ⟨long, typed⟩ := Bool.and_eq_true_iff.mp known
    have long : Index.minLength ≤ items.length := of_decide_eq_true long
    obtain ⟨state, accepted⟩ := StateVector.fromArray_typed lax long typed
    refine ⟨state, ?_, accepted⟩
    rw [wellFormed, if_pos known, loaded, if_pos long]
    exact (StateVector.fromArray_ok_iff.mp accepted).2
  | _ => cases known

theorem forall₂_wellFormed (lax : pydantic.Lax) {entries : List Json} {states : List StateVector} :
    List.Forall₂ (fun raw state => StateVector.fromArray pydantic raw = .ok state)
      (entries.filter isWellFormed) states ↔ entries.filterMap (wellFormed pydantic) = states := by
  induction entries generalizing states with
  | nil =>
    rw [List.filter_nil, List.forall₂_nil_left_iff, List.filterMap_nil]
    exact eq_comm
  | cons raw rest ih =>
    cases known : isWellFormed raw with
    | false =>
      have none_found : wellFormed pydantic raw = none := if_neg (Bool.not_eq_true _ ▸ known)
      rw [List.filter_cons_of_neg (Bool.not_eq_true _ ▸ known), List.filterMap_cons_none none_found, ih]
    | true =>
      obtain ⟨state, found, accepted⟩ := wellFormed_fromArray lax known
      rw [List.filter_cons_of_pos known, List.filterMap_cons_some found]
      constructor
      · intro each
        cases each with
        | cons first others =>
          obtain rfl := Except.ok.inj (accepted.symm.trans first)
          rw [ih.mp others]
      · rintro rfl
        exact .cons accepted (ih.mpr rfl)

/-- What is loaded is well formed, unless pydantic makes something of other types. -/
theorem loaded_eq_iff (lawful : pydantic.Lawful) (raw : Json) :
    loaded pydantic raw = wellFormed pydantic raw ↔
      ∀ items, raw = .arr items → Index.minLength ≤ items.length →
        StateVector.coercible pydantic items = true → StateVector.typed items = true := by
  cases raw with
  | arr items =>
    simp only [loaded, wellFormed, isWellFormed, Json.arr.injEq, forall_eq', StateVector.coercible_iff lawful]
    by_cases long : Index.minLength ≤ items.length
    · by_cases typed : StateVector.typed items = true
      · simp only [long, typed, decide_true, Bool.and_self, if_true, implies_true]
      · simp only [long, typed, Bool.and_false, Bool.false_eq_true, if_true, if_false, forall_const,
          imp_false]
        rw [Option.eq_none_iff_forall_ne_some, not_exists]
    · simp [long]
  | _ => simp [loaded, wellFormed]

/-- The poll returns the well-formed entries in their order exactly when no entry
is an object of 17 or more members, and pydantic makes no state vector of an
array whose elements do not have the types of the fields. -/
theorem malformed_skipped_iff {mets : Nat → Attempt} {client : OpenSkyClient} {payload : Json}
    {entries : List Json} (lax : pydantic.Lax) (answered : Answered mets client payload)
    (listed : payload.get "states" = .ok (some (.arr entries))) :
    Skips pydantic entries (fetchStates pydantic mets client) ↔
      (∀ fields, .obj fields ∈ entries → fields.length < Index.minLength) ∧
        ∀ items, .arr items ∈ entries → Index.minLength ≤ items.length →
          StateVector.coercible pydantic items = true → StateVector.typed items = true := by
  have skips : Skips pydantic entries (fetchStates pydantic mets client) ↔
      fetchStates pydantic mets client = .ok (entries.filterMap (wellFormed pydantic)) := by
    simp only [Skips, forall₂_wellFormed lax, exists_eq_right']
  rw [skips, fetchStates_ok_iff lax.listInt_str answered listed]
  apply and_congr_right
  intro _
  rw [filterMap_eq_iff wellFormed_loaded]
  constructor
  · intro same items member
    exact (loaded_eq_iff lax.toLawful _).mp (same _ member) items rfl
  · intro typed raw member
    refine (loaded_eq_iff lax.toLawful raw).mpr ?_
    rintro items rfl
    exact typed items member

end Entries

def region : OpenSkyClient := init "https://opensky-network.org/api/" (29, 34, 33, 36) none

/-- The first attempt is answered 429, the second with these entries. -/
def poll (entries : List Json) : Nat → Attempt
  | 0 => ⟨0, ⟨.transportError, 0⟩, fun _ => .response 429 none⟩
  | _ => ⟨3, ⟨.transportError, 3⟩, fun _ => .response 200 (some (.obj
      [("time", .int 1735400005), ("states", .arr entries)]))⟩

def shortState : List Json := [
  .str "4ca7b3", .str "ELY001  ", .str "Israel", .int 1735400000, .int 1735400005,
  .float (34777 / 1000), .float (32011 / 1000), .float 10668, .bool false, .float (2305 / 10),
  .float (882 / 10), .float 0, .null, .float 10972, .str "5051", .bool false, .int 0]

def mixedEntries : List Json := [
  .null, .str "0123456789abcdefgh", .arr (shortState.take 5), .obj [("icao24", .str "4ca7b3")],
  .arr shortState, .arr (.int 1 :: shortState.drop 1), .bool true]

theorem answered_poll (entries : List Json) : Answered (poll entries) region
    (.obj [("time", .int 1735400005), ("states", .arr entries)]) := by
  refine ⟨1, by decide, fun k small => ?_, rfl⟩
  obtain rfl := Nat.lt_one_iff.mp small
  rfl

theorem malformed_skipped_iff_poll :
    Skips .strict mixedEntries (fetchStates .strict (poll mixedEntries) region) ∧
      mixedEntries.filter isWellFormed = [.arr shortState] := by
  constructor
  · apply (malformed_skipped_iff Pydantic.strict_lax (answered_poll mixedEntries) rfl).mpr
    constructor
    · intro fields member
      simp only [mixedEntries, List.mem_cons, reduceCtorEq, Json.obj.injEq, false_or, List.not_mem_nil,
        or_false] at member
      subst member
      decide
    · intro items member
      simp only [mixedEntries, List.mem_cons, reduceCtorEq, Json.arr.injEq, false_or, List.not_mem_nil,
        or_false] at member
      rcases member with rfl | rfl | rfl <;> decide +kernel
  · rfl

/-- A number for the callsign and a text for `on_ground` are no obstacle. -/
example : (loaded .strict (.arr ((shortState.set 1 (.int 42)).set 8 (.str "false")))).isSome ∧
    isWellFormed (.arr ((shortState.set 1 (.int 42)).set 8 (.str "false"))) = false := by
  decide +kernel

/-- One object of 17 members loses the whole poll. -/
theorem long_object_loses_poll :
    ¬ ∀ (pydantic : Pydantic) mets client payload entries, pydantic.Lax →
      Answered mets client payload → payload.get "states" = .ok (some (.arr entries)) →
        Skips pydantic entries (fetchStates pydantic mets client) := by
  intro skips
  let entries : List Json := [.arr shortState, .obj ((List.range 17).map fun n => (toString n, .null))]
  obtain ⟨states, returned, -⟩ := skips .strict (poll entries) region _ entries Pydantic.strict_lax
    (answered_poll entries) rfl
  have raised : fetchStates .strict (poll entries) region = .error (.keyError "1") := by rfl
  rw [raised] at returned
  cases returned

end OpenSkyClient
end FlightHub
