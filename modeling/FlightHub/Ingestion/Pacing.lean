import FlightHub.Ingestion.Main
import FlightHub.Numeric.Spacing

/-! When the ingestion service polls. However long a cycle takes and whatever it
raises, the sleep after it makes up for the rest of the interval. -/
namespace FlightHub.Ingestion
open Python Transition Numeric
variable {pydantic : Pydantic} {settings : Settings} {s t : State} {label : Label}

theorem Stage.connected_cases (stage : Stage) (label : RabbitMQPublisher.Label)
    (phase : RabbitMQPublisher.Phase) : stage.connected label phase = stage ∨
      stage = .connecting ∧ (stage.connected label phase = .ready ∨
        stage.connected label phase = .failed) := by
  unfold Stage.connected
  split
  · exact .inr ⟨rfl, .inl rfl⟩
  · exact .inr ⟨rfl, .inr rfl⟩
  · exact .inl rfl

theorem Stage.connected_cycle (stage : Stage) (label : RabbitMQPublisher.Label)
    (phase : RabbitMQPublisher.Phase) : (stage.connected label phase).cycle = stage.cycle := by
  rcases stage.connected_cases label phase with same | ⟨rfl, ready | failed⟩
  · rw [same]
  · rw [ready]
    rfl
  · rw [failed]
    rfl

/-- When the next cycle begins at the earliest: after the sleep, or at once. -/
def State.nextStart (s : State) : ℚ :=
  match s.stage with
  | .sleeping deadline => deadline
  | _ => s.clock

theorem State.starts_kept (cycles : t.cycles = s.cycles)
    (starts : t.stage.cycle.map Cycle.start = s.stage.cycle.map Cycle.start) :
    t.allCycles.map Cycle.start = s.allCycles.map Cycle.start := by
  simp only [State.allCycles, List.map_append, cycles, ← Option.toList_map, starts]

/-- The sleep ends an interval after the start of the cycle, or at once. -/
theorem add_sleepFor (settings : Settings) (now start : ℚ) :
    now + sleepFor settings now start = max now (start + settings.pollIntervalSeconds) := by
  rw [sleepFor, ← max_add_add_left, add_zero]
  congr 1
  ring

structure Timed (settings : Settings) (s : State) : Prop where
  spaced : Spaced settings.pollIntervalSeconds (s.allCycles.map Cycle.start)
  begun : ∀ cycle ∈ s.allCycles, cycle.start ≤ s.clock
  rested : s.stage.cycle = none → ∀ cycle ∈ s.cycles,
    cycle.start + settings.pollIntervalSeconds ≤ s.nextStart

theorem initial_timed (settings : Settings) (clock : ℚ) : Timed settings (initial settings clock) where
  spaced := .nil
  begun cycle member := by cases member
  rested _ cycle member := by cases member

namespace Timed

/-- A step within a cycle changes neither the starts nor the clock. -/
theorem within (timed : Timed settings s) (clock : t.clock = s.clock) (cycles : t.cycles = s.cycles)
    (starts : t.stage.cycle.map Cycle.start = s.stage.cycle.map Cycle.start)
    (nextStart : t.stage.cycle = none → t.nextStart = s.nextStart) : Timed settings t where
  spaced := State.starts_kept cycles starts ▸ timed.spaced
  begun cycle member := by
    have same := State.starts_kept cycles starts
    obtain ⟨before, listed, start⟩ := List.mem_map.mp
      (same ▸ List.mem_map_of_mem member : cycle.start ∈ s.allCycles.map Cycle.start)
    rw [clock, ← start]
    exact timed.begun before listed
  rested outside cycle member := by
    have before : s.stage.cycle = none := by
      rw [outside] at starts
      cases known : s.stage.cycle with
      | none => rfl
      | some other => simp [known] at starts
    rw [nextStart outside]
    exact timed.rested before cycle (cycles ▸ member)

theorem step (timed : Timed settings s) (step : Step pydantic settings s label t) :
    Timed settings t := by
  cases step with
  | tick forward =>
    refine ⟨timed.spaced, fun cycle member => ?_, fun outside cycle member => ?_⟩
    · exact (timed.begun cycle member).trans (le_add_of_nonneg_right forward)
    · refine (timed.rested outside cycle member).trans ?_
      simp only [State.nextStart]
      cases s.stage <;> first | exact le_rfl | exact le_add_of_nonneg_right forward
  | signal => exact timed.within rfl rfl rfl fun _ => rfl
  | @publisher label publisher own moved =>
    refine timed.within rfl rfl (by rw [Stage.connected_cycle]) fun outside => ?_
    rcases s.stage.connected_cases label publisher.phase with same | ⟨connecting, ready | failed⟩
    · simp only [State.nextStart, same]
    · have before : s.nextStart = s.clock := by simp only [State.nextStart, connecting]
      rw [before]
      simp only [State.nextStart, ready]
    · have before : s.nextStart = s.clock := by simp only [State.nextStart, connecting]
      rw [before]
      simp only [State.nextStart, failed]
  | connect starting moved =>
    refine timed.within rfl rfl (by rw [starting]; rfl) fun _ => ?_
    simp only [State.nextStart, starting]
  | begin ready running =>
    have outside : s.stage.cycle = none := by rw [ready]; rfl
    have now : s.nextStart = s.clock := by rw [State.nextStart, ready]
    have past : s.allCycles = s.cycles := by simp [State.allCycles, outside]
    refine ⟨?_, fun cycle member => ?_, nofun⟩
    · have spaced := timed.spaced
      rw [past] at spaced
      simp only [State.allCycles, Stage.cycle, Option.toList_some, List.map_append, List.map_cons,
        List.map_nil]
      refine spaced_concat.mpr ⟨spaced, fun start member => ?_⟩
      obtain ⟨cycle, listed, rfl⟩ := List.mem_map.mp member
      exact now ▸ timed.rested outside cycle listed
    · rcases List.mem_append.mp member with before | own
      · exact timed.begun cycle (past ▸ before)
      · rw [List.mem_singleton.mp own]
  | fetched polling _ | unfetched polling =>
    exact timed.within rfl rfl (by rw [polling]; rfl) nofun
  | publish publishing _ => exact timed.within rfl rfl (by rw [publishing]; rfl) nofun
  | returned calling _ _ | raised calling _ _ =>
    exact timed.within rfl rfl (by rw [calling]; rfl) nofun
  | touched published | untouched published =>
    exact timed.within rfl rfl (by rw [published]; rfl) nofun
  | @pause cycle pausing =>
    have all : s.allCycles = s.cycles ++ [cycle] := by simp [State.allCycles, pausing, Stage.cycle]
    refine ⟨?_, ?_, fun _ other member => ?_⟩
    · have spaced := timed.spaced
      rw [all] at spaced
      simpa only [State.allCycles, Stage.cycle, Option.toList_none, List.append_nil] using spaced
    · have begun := timed.begun
      rw [all] at begun
      simpa only [State.allCycles, Stage.cycle, Option.toList_none, List.append_nil] using begun
    · simp only [State.nextStart, add_sleepFor]
      rcases List.mem_append.mp member with before | own
      · have spaced := timed.spaced
        rw [all, List.map_append] at spaced
        have apart := (spaced_concat.mp spaced).2 _ (List.mem_map_of_mem before)
        have begun := timed.begun cycle (all ▸ List.mem_append_right _ List.mem_cons_self)
        exact (apart.trans begun).trans (le_max_left _ _)
      · rw [List.mem_singleton.mp own]
        exact le_max_right _ _
  | wake sleeping due =>
    refine ⟨?_, ?_, fun _ cycle member => ?_⟩
    · simpa only [State.allCycles, sleeping, Stage.cycle] using timed.spaced
    · simpa only [State.allCycles, sleeping, Stage.cycle] using timed.begun
    · have rested := timed.rested (by rw [sleeping]; rfl) cycle member
      simp only [State.nextStart, sleeping] at rested ⊢
      exact rested.trans due
  | leave ready _ =>
    refine timed.within rfl rfl (by rw [ready]; rfl) fun _ => ?_
    simp only [State.nextStart, ready]

end Timed

theorem run_timed {ls : List Label} {clock : ℚ}
    (run : Run (Steps (next pydantic settings)) (initial settings clock) ls s) : Timed settings s :=
  run.invariant (fun timed moved => timed.step (next_step moved)) (initial_timed settings clock)

/-- The times at which the polls began. -/
def State.polls (s : State) : List ℚ := s.allCycles.map Cycle.start

/-- Whatever raises and however long a cycle takes, two polls begin at least the
interval apart, so a window of time holds one poll more than intervals at most. -/
theorem polls_limited {ls : List Label} {clock : ℚ}
    (run : Run (Steps (next pydantic settings)) (initial settings clock) ls s) :
    Spaced settings.pollIntervalSeconds s.polls ∧ ∀ first last, first ≤ last →
      0 ≤ settings.pollIntervalSeconds →
        ((s.polls.filter fun poll => first ≤ poll ∧ poll ≤ last).length : ℚ) *
          settings.pollIntervalSeconds ≤ last - first + settings.pollIntervalSeconds := by
  have spaced := (run_timed run).spaced
  exact ⟨spaced, fun first last order positive => spaced.window order positive⟩

/-- A cycle of one state vector, and the beginning of the next cycle. -/
def fullCycle : List Label := [
  .connect, .publisher .ready, .begin,
  .fetch (OpenSkyClient.poll OpenSkyClient.mixedEntries),
  .publish ⟨1735400012000000, by decide, by decide⟩, .publisher .send, .publisher .complete, .resume,
  .tick 2, .report true, .pause, .tick 10, .wake, .begin]

theorem fullCycle_run : ∃ s, Run (Steps (next .strict {})) (initial {} 0) fullCycle s ∧
    s.polls = [0, 12] ∧ s.heartbeats = [2] := by
  have passed : (replay (next .strict {}) (initial {} 0) fullCycle).any
      (fun s => s.polls = [0, 12] && s.heartbeats = [2]) = true := by decide +kernel
  obtain ⟨s, run, ended⟩ := run_of_test passed
  rw [Bool.and_eq_true, decide_eq_true_eq, decide_eq_true_eq] at ended
  exact ⟨s, run, ended⟩

theorem polls_limited_fullCycle : ∃ s, Run (Steps (next .strict {})) (initial {} 0) fullCycle s ∧
    s.polls = [0, 12] ∧ Spaced 12 s.polls ∧ ∀ first last, first ≤ last → (0 : ℚ) ≤ 12 →
      ((s.polls.filter fun poll => first ≤ poll ∧ poll ≤ last).length : ℚ) * 12 ≤
        last - first + 12 := by
  obtain ⟨s, run, polls, _⟩ := fullCycle_run
  exact ⟨s, run, polls, polls_limited run⟩

end FlightHub.Ingestion
