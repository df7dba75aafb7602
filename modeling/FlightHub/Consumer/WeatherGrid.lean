import FlightHub.Common.Rounding
import FlightHub.Consumer.WeatherCache

/-! The grid cells of the weather cache. `_grid_key` rounds a coordinate to the
grid and the result to four decimals; while the grid is coarser than that, the
second rounding neither merges nor splits cells. -/
namespace FlightHub.WeatherClient
open Python Numeric Transition
variable {client : WeatherClient} {lat lon lat' lon' : ℚ}

/-- One coordinate of `_grid_key`. -/
def gridCoordinate (client : WeatherClient) (coordinate : ℚ) : ℚ :=
  roundTo 4 (client.gridIndex coordinate * client.gridSizeDeg)

/-- The spacing of numbers with four decimals. -/
def decimals : ℚ := 1 / 10000

theorem gridKey_eq (lat lon : ℚ) :
    client.gridKey lat lon = (client.gridCoordinate lat, client.gridCoordinate lon) := rfl

theorem gridCoordinate_eq (coordinate : ℚ) : client.gridCoordinate coordinate =
    onGrid roundEven decimals (onGrid roundEven client.gridSizeDeg coordinate) := by
  rw [gridCoordinate, roundTo_eq]
  norm_num [decimals, onGrid, gridIndex]

theorem decimals_pos : 0 < decimals := by norm_num [decimals]

theorem gridCoordinate_near (coarse : decimals < client.gridSizeDeg) (coordinate : ℚ) :
    |client.gridCoordinate coordinate - coordinate| ≤ client.gridSizeDeg / 2 + 1 / 20000 := by
  rw [gridCoordinate_eq]
  have near := abs_nested_sub_le roundEven_nearest decimals_pos (decimals_pos.trans coarse) coordinate
  norm_num [decimals] at near ⊢
  exact near

/-- The coordinate of a cell lies in that cell. -/
theorem gridIndex_gridCoordinate (coarse : decimals < client.gridSizeDeg) (coordinate : ℚ) :
    client.gridIndex (client.gridCoordinate coordinate) = client.gridIndex coordinate := by
  rw [gridCoordinate_eq]
  exact round_onGrid_div roundEven_nearest decimals_pos coarse _

theorem gridCoordinate_inj (coarse : decimals < client.gridSizeDeg) :
    client.gridCoordinate lat = client.gridCoordinate lat' ↔
      client.gridIndex lat = client.gridIndex lat' := by
  rw [gridCoordinate_eq, gridCoordinate_eq]
  exact onGrid_nested_inj roundEven_nearest decimals_pos coarse

/-- Positions of one cell are at most its size apart. -/
theorem abs_sub_le_of_gridIndex_eq (coarse : decimals < client.gridSizeDeg)
    (same : client.gridIndex lat = client.gridIndex lat') : |lat - lat'| ≤ client.gridSizeDeg := by
  apply abs_sub_le_of_onGrid_eq roundEven_nearest (decimals_pos.trans coarse)
  have indices : roundEven (lat / client.gridSizeDeg) = roundEven (lat' / client.gridSizeDeg) := same
  rw [onGrid, onGrid, indices]

theorem gridKey_inj (coarse : decimals < client.gridSizeDeg) :
    client.gridKey lat lon = client.gridKey lat' lon' ↔
      client.gridIndex lat = client.gridIndex lat' ∧ client.gridIndex lon = client.gridIndex lon' := by
  rw [gridKey_eq, gridKey_eq, Prod.mk.injEq, gridCoordinate_inj coarse, gridCoordinate_inj coarse]

theorem abs_sub_le_of_gridKey_eq (coarse : decimals < client.gridSizeDeg)
    (same : client.gridKey lat lon = client.gridKey lat' lon') :
    |lat - lat'| ≤ client.gridSizeDeg ∧ |lon - lon'| ≤ client.gridSizeDeg := by
  obtain ⟨rows, columns⟩ := (gridKey_inj coarse).mp same
  exact ⟨abs_sub_le_of_gridIndex_eq coarse rows, abs_sub_le_of_gridIndex_eq coarse columns⟩

/-! ### The calls of a run -/

variable {pydantic : Pydantic} {s t : State} {label : Label} {ls : List Label} {clock : ℚ} {id : CallId}
  {key : GridKey}

/-- The call has begun, and asks for this cell unless it has raised. -/
def Call.Concerns (key : GridKey) : Call → Prop
  | .entered own | .timed own _ | .missed own _ | .fetching own _ | .fetched own _ _
  | .returned (some (own, _)) _ => own = key
  | .raised _ => True
  | .idle | .returned none _ => False

theorem conclude_concerns (now : ℚ) (outcome : Except Exception (Option WeatherReading)) :
    (conclude key now outcome).Concerns key := by
  unfold conclude
  split
  · rfl
  · rfl
  · trivial

theorem enter_concerns (lat lon : ℚ) :
    (client.enter (some lat) (some lon)).Concerns (client.gridKey lat lon) := by
  simp only [enter, findGridKey]
  split
  · next found =>
    split at found
    · cases found
    · split at found
      · cases found
      · cases found
        rfl
  · trivial

/-- A call which has begun keeps to its cell. -/
theorem Step.concerns (step : Step client pydantic s label t) (concerns : (s.calls id).Concerns key) :
    (t.calls id).Concerns key := by
  by_cases own : label.caller = some id
  · cases step with
    | tick _ => exact concerns
    | call idle =>
      cases own
      rw [idle] at concerns
      exact concerns.elim
    | endFetch at_call _ =>
      cases own
      rw [at_call] at concerns
      obtain rfl := concerns
      simp only [State.log, State.set, Function.update_self]
      exact conclude_concerns _ _
    | readClock at_call | hit at_call _ _ | miss at_call _ | startFetch at_call | writeCache at_call =>
      cases own
      rw [at_call] at concerns
      obtain rfl := concerns
      simp only [State.log, State.set, Function.update_self]
      rfl
  · rw [(step.others own).1]
    exact concerns

/-- Every call for a position asks for the cell of that position. -/
theorem run_concerns (run : Run (Steps (next client pydantic)) (initial clock) ls s)
    (called : .call id (some lat) (some lon) ∈ ls) :
    (s.calls id).Concerns (client.gridKey lat lon) := by
  induction run with
  | refl => cases called
  | next before moved ih =>
    rcases List.mem_append.mp called with earlier | last
    · exact (next_step moved).concerns (ih earlier)
    · obtain rfl := List.mem_singleton.mp last
      cases next_step moved with
      | call idle =>
        simp only [State.set, Function.update_self]
        exact enter_concerns lat lon

/-- The cells of the grid stand for the positions near them. -/
structure FaithfulGrid (client : WeatherClient) (pydantic : Pydantic) : Prop where
  near : ∀ lat lon, |(client.gridKey lat lon).1 - lat| ≤ client.gridSizeDeg / 2 + 1 / 20000 ∧
    |(client.gridKey lat lon).2 - lon| ≤ client.gridSizeDeg / 2 + 1 / 20000
  stable : ∀ lat lon, client.gridKey (client.gridKey lat lon).1 (client.gridKey lat lon).2 =
    client.gridKey lat lon
  cells : ∀ lat lon lat' lon', client.gridKey lat lon = client.gridKey lat' lon' ↔
    client.gridIndex lat = client.gridIndex lat' ∧ client.gridIndex lon = client.gridIndex lon'
  /-- Calls which returned the reading of one cell were made for positions within its size. -/
  shared : ∀ clock ls s, Run (Steps (next client pydantic)) (initial clock) ls s →
    ∀ id other lat lon lat' lon' key now now' reading reading',
      .call id (some lat) (some lon) ∈ ls → .call other (some lat') (some lon') ∈ ls →
        s.calls id = .returned (some (key, now)) reading →
          s.calls other = .returned (some (key, now')) reading' →
            |lat - lat'| ≤ client.gridSizeDeg ∧ |lon - lon'| ≤ client.gridSizeDeg
  /-- A write for one cell leaves the entries of the others. -/
  apart : ∀ lat lon lat' lon',
    ¬(client.gridIndex lat = client.gridIndex lat' ∧ client.gridIndex lon = client.gridIndex lon') →
      ∀ (cache : GridKey → Option Entry) (entry : Option Entry),
        Function.update cache (client.gridKey lat lon) entry (client.gridKey lat' lon') =
          cache (client.gridKey lat' lon')

/-- A grid coarser than the decimals of its keys is faithful. -/
theorem grid_faithful (client : WeatherClient) (pydantic : Pydantic)
    (coarse : 1 / 10000 < client.gridSizeDeg) : FaithfulGrid client pydantic where
  near lat lon := ⟨gridCoordinate_near coarse lat, gridCoordinate_near coarse lon⟩
  stable lat lon := by
    rw [gridKey_inj coarse]
    exact ⟨gridIndex_gridCoordinate coarse lat, gridIndex_gridCoordinate coarse lon⟩
  cells lat lon lat' lon' := gridKey_inj coarse
  shared clock ls s run id other lat lon lat' lon' key now now' reading reading' called also first second := by
    have one := run_concerns run called
    have two := run_concerns run also
    rw [first] at one
    rw [second] at two
    exact abs_sub_le_of_gridKey_eq coarse (one.symm.trans two)
  apart lat lon lat' lon' differ cache entry := by
    apply Function.update_of_ne
    intro same
    obtain ⟨rows, columns⟩ := (gridKey_inj coarse).mp same
    exact differ ⟨rows.symm, columns.symm⟩

theorem grid_faithful_default : FaithfulGrid {} .strict ∧
    WeatherClient.gridKey {} (641 / 20) (697 / 20) = (32, 139 / 4) := by
  constructor
  · exact grid_faithful {} .strict (by norm_num)
  · decide +kernel

end FlightHub.WeatherClient
