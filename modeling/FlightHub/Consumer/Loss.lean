import FlightHub.Consumer.Domain
import FlightHub.Consumer.Settlement

/-! What becomes of a message. It stays with the broker until it is acked after
its history row was committed, or nacked, which drops it, after its own
processing raised. Any exception leads there, a passing outage included. -/
namespace FlightHub.Consumer
open Postgres Transition
variable {settings : Settings} {driver : Driver} {tables : Database} {s : State} {ls : List Label}

/-- The broker still has the message, in the queue or in an unsettled delivery. -/
def State.AtBroker (s : State) (id : MessageId) : Prop :=
  id ∈ s.queue ∨ ∃ tag ∈ s.unacked, s.message tag = id

def State.Stored (s : State) (message : FlightMessage) : Prop :=
  ∃ weather flight, EnrichedFlight.fromFlightMessage message weather = .ok flight ∧
    flight.modelDump ∈ s.repository.session.committed.history

theorem Custody.body (custody : Custody s) {tag : Tag}
    (settled : tag ∈ s.settled.map Prod.fst) : s.body tag = s.published[s.message tag]? := by
  have bound := custody.delivered (List.mem_append_left _ (List.mem_append_right _ settled))
  simp only [State.body, State.message, List.getElem?_eq_getElem bound, Option.bind_some,
    List.getD_eq_getElem _ _ bound]

theorem normalised_of_storable {message : FlightMessage} (storable : Storable message none)
    (weather : Option WeatherReading) (exception : Python.Exception) :
    EnrichedFlight.fromFlightMessage message weather ≠ .error exception := by
  obtain ⟨flight, made, _⟩ := storable
  have times := EnrichedFlight.fromFlightMessage_ok_iff.mp ⟨flight, made⟩
  obtain ⟨flight, made⟩ : ∃ flight, EnrichedFlight.fromFlightMessage message weather = .ok flight :=
    EnrichedFlight.fromFlightMessage_ok_iff.mpr times
  rw [made]
  nofun

/-- A valid, storable message stays with the broker until it is acked with its
history row committed, or dropped because the weather lookup or the call of
`upsert_flight` made for it raised. -/
theorem message_kept (run : Run (Steps (next settings driver)) (initial tables) ls s)
    {id : MessageId} {message : FlightMessage} (valid : s.published[id]? = some (some message))
    (storable : Storable message none) :
    s.AtBroker id ∨ ∃ tag, s.message tag = id ∧
      ((tag, true) ∈ s.settled ∧ s.Stored message ∨
        (tag, false) ∈ s.settled ∧
          ((tag, .weather) ∈ s.raised ∧ Label.enrich tag none ∈ ls ∨
            (tag, .store) ∈ s.raised ∧ s.repository.calls tag = .raised)) := by
  have custody := run_custody run
  have bound := (List.getElem?_eq_some_iff.mp valid).1
  have placed := custody.messages.mem_iff.mpr (List.mem_range.mpr bound)
  rcases List.mem_append.mp placed with queued | placed
  · exact .inl (.inl queued)
  obtain ⟨tag, member, same⟩ := List.mem_map.mp placed
  rcases List.mem_append.mp member with unacked | settled
  · exact .inl (.inr ⟨tag, unacked, same⟩)
  refine .inr ⟨tag, same, ?_⟩
  have body : s.body tag = some (some message) := by rw [custody.body settled, same, valid]
  obtain ⟨⟨own, ok⟩, logged, rfl⟩ := List.mem_map.mp settled
  cases ok with
  | true =>
    obtain ⟨_, _, flight, ⟨read, weather, known, made⟩, stored⟩ := run_acked run logged
    obtain rfl : read = message := by simpa only [body, Option.some.injEq, eq_comm] using known
    exact .inl ⟨logged, weather, flight, made, stored⟩
  | false =>
    obtain ⟨failure, recorded, raised, unanswered⟩ := run_nacked run logged
    refine .inr ⟨logged, ?_⟩
    cases failure with
    | invalid => exact absurd (body.symm.trans raised) nofun
    | weather => exact .inl ⟨recorded, unanswered rfl⟩
    | normalise exception =>
      obtain ⟨read, weather, known, failed⟩ := raised
      obtain rfl : read = message := by simpa only [body, Option.some.injEq, eq_comm] using known
      exact absurd failed (normalised_of_storable storable weather exception)
    | store => exact .inr ⟨recorded, raised⟩

def firstReport : FlightMessage := report "738065" 0

theorem firstReport_storable : Storable firstReport none := by
  refine ⟨_, rfl, fun column => ?_⟩
  cases column <;> decide

/-- PostgreSQL goes away during the call and is back at once. -/
def outageSchedule : List Label := [
  .publish firstReport, .deliver, .start, .enrich 0 (some none),
  .store (.acquire 0), .store .lose, .store (.upsert 0 .accepted 1735400021000000),
  .finish 0, .schedule 0, .settle 0]

private def dropped (s : State) : Bool :=
  s.published = [some firstReport] ∧ s.queue = [] ∧ s.unacked = [] ∧
    s.settled = [(0, false)] ∧ s.repository.session.committed.flightHistory.isEmpty

private theorem outage_drops : ∃ s,
    Run (Steps (next {} fun _ => true)) (initial .empty) outageSchedule s ∧ dropped s = true := by
  refine run_of_test ?_
  decide

theorem outage_loses_message :
    ¬ ∀ settings driver tables ls s, Run (Steps (next settings driver)) (initial tables) ls s →
      ∀ id message, s.published[id]? = some (some message) → Storable message none →
        s.AtBroker id ∨ s.Stored message := by
  intro kept
  obtain ⟨s, run, lost⟩ := outage_drops
  obtain ⟨published, queue, unacked, _, history⟩ := of_decide_eq_true lost
  rcases kept _ _ _ _ s run 0 firstReport (by rw [published]; rfl) firstReport_storable with
    (queued | ⟨tag, unsettled, _⟩) | ⟨_, flight, _, stored⟩
  · rw [queue] at queued
    cases queued
  · rw [unacked] at unsettled
    cases unsettled
  · rw [Database.history, List.isEmpty_iff.mp history] at stored
    cases stored

theorem message_kept_outage : ∃ s,
    Run (Steps (next {} fun _ => true)) (initial .empty) outageSchedule s ∧
      (s.AtBroker 0 ∨ ∃ tag, s.message tag = 0 ∧
        ((tag, true) ∈ s.settled ∧ s.Stored firstReport ∨
          (tag, false) ∈ s.settled ∧
            ((tag, .weather) ∈ s.raised ∧ Label.enrich tag none ∈ outageSchedule ∨
              (tag, .store) ∈ s.raised ∧ s.repository.calls tag = .raised))) := by
  obtain ⟨s, run, lost⟩ := outage_drops
  obtain ⟨published, _⟩ := of_decide_eq_true lost
  have valid : s.published[0]? = some (some firstReport) := by rw [published]; rfl
  exact ⟨s, run, message_kept run valid firstReport_storable⟩

end FlightHub.Consumer
