import FlightHub.Consumer.Settlement
import Mathlib.Data.Int.Order.Basic

/-! The order of the commits and the current snapshot. The conflict path of the
upsert overwrites whatever is stored, so the snapshot holds the newest message
of an aircraft when the commits of that aircraft keep the publication order. -/
namespace FlightHub.Consumer
open Postgres Transition
variable {settings : Settings} {driver : Driver} {tables : Database} {s t : State} {label : Label}

/-- The messages of each aircraft are published with increasing `fetched_at`. -/
def Increasing (published : List Body) : Prop :=
  published.Pairwise fun earlier later => ∀ first second, earlier = some first →
    later = some second → first.state.icao24 = second.state.icao24 →
      first.fetchedAt.micros < second.fetchedAt.micros

theorem Increasing.lt {published : List Body} (increasing : Increasing published)
    {earlier later : MessageId} {first second : FlightMessage}
    (at_earlier : published[earlier]? = some (some first))
    (at_later : published[later]? = some (some second))
    (same : first.state.icao24 = second.state.icao24) (order : earlier < later) :
    first.fetchedAt.micros < second.fetchedAt.micros := by
  obtain ⟨earlier_bound, at_earlier⟩ := List.getElem?_eq_some_iff.mp at_earlier
  obtain ⟨later_bound, at_later⟩ := List.getElem?_eq_some_iff.mp at_later
  exact List.pairwise_iff_getElem.mp increasing earlier later earlier_bound later_bound order
    first second at_earlier at_later same

theorem Increasing.le {published : List Body} (increasing : Increasing published)
    {earlier later : MessageId} {first second : FlightMessage}
    (at_earlier : published[earlier]? = some (some first))
    (at_later : published[later]? = some (some second))
    (same : first.state.icao24 = second.state.icao24) (order : earlier ≤ later) :
    first.fetchedAt.micros ≤ second.fetchedAt.micros := by
  rcases Nat.lt_or_eq_of_le order with before | rfl
  · exact Int.le_of_lt (increasing.lt at_earlier at_later same before)
  · rw [at_earlier, Option.some.injEq, Option.some.injEq] at at_later
    exact at_later ▸ Int.le_refl _

/-- When a commit takes effect, no message which was published later about the
same aircraft has been committed. -/
def InPublicationOrder (s : State) : Label → Prop
  | .store (.commit tag reply) => s.repository.Effective reply → ∀ flight,
      (s.repository.calls tag).flight = some flight → ∀ commit ∈ s.repository.commits,
        commit.flight.icao24 = flight.icao24 → s.message commit.call ≤ s.message tag
  | _ => True

def State.Sorted (s : State) : Prop :=
  s.repository.commits.Pairwise fun earlier later =>
    earlier.flight.icao24 = later.flight.icao24 → s.message earlier.call ≤ s.message later.call

theorem Extends.message (extended : Extends s t) {tag : Tag} (delivered : tag < s.deliveries.length) :
    t.message tag = s.message tag := by
  obtain ⟨later, same⟩ := extended.deliveries
  rw [State.message, ← same]
  exact List.getD_append _ _ _ _ delivered

theorem State.Enriched.published {tag : Tag} {flight : EnrichedFlight} (enriched : s.Enriched tag flight) :
    tag < s.deliveries.length ∧ ∃ message, s.published[s.message tag]? = some (some message) ∧
      flight.icao24 = message.state.icao24 ∧ flight.fetchedAt = message.fetchedAt := by
  obtain ⟨message, weather, body, made⟩ := enriched
  obtain ⟨id, delivered, published⟩ := Option.bind_eq_some_iff.mp body
  obtain ⟨bound, at_tag⟩ := List.getElem?_eq_some_iff.mp delivered
  have same : s.message tag = id := by rw [State.message, List.getD_eq_getElem _ _ bound, at_tag]
  exact ⟨bound, message, same ▸ published, EnrichedFlight.fromFlightMessage_icao24 made,
    EnrichedFlight.fromFlightMessage_fetchedAt made⟩

theorem State.Sorted.step (sorted : s.Sorted) (tracked : Tracked driver tables s)
    (step : Step settings driver s label t) (ordered : InPublicationOrder s label) : t.Sorted := by
  have delivered : ∀ commit ∈ s.repository.commits, t.message commit.call = s.message commit.call :=
    fun commit member => step.grows.message (tracked.committed commit member).published.1
  have kept : s.repository.commits.Pairwise fun earlier later =>
      earlier.flight.icao24 = later.flight.icao24 → t.message earlier.call ≤ t.message later.call := by
    refine List.Pairwise.imp_of_mem ?_ sorted
    intro earlier later first second bound same
    rw [delivered earlier first, delivered later second]
    exact bound same
  rcases step.commits with same | ⟨tag, reply, flight, started, rfl, effective, known, grown⟩
  · rw [State.Sorted, same]
    exact kept
  · rw [State.Sorted, grown, List.pairwise_append]
    refine ⟨kept, List.pairwise_singleton _ _, ?_⟩
    intro earlier member last own same
    rw [List.mem_singleton.mp own] at same ⊢
    have own_delivered := (tracked.carried tag flight known).published.1
    rw [delivered earlier member, step.grows.message own_delivered]
    exact ordered effective flight known earlier member same

theorem run_sorted {ls : List Label}
    (run : Run (Meeting (Steps (next settings driver)) InPublicationOrder) (initial tables) ls s) :
    s.Sorted := by
  induction run with
  | refl => exact List.Pairwise.nil
  | next before moved ih =>
    exact ih.step (run_tracked before.forget) (next_step moved.1) moved.2

theorem State.Sorted.ordered (sorted : s.Sorted) (tracked : Tracked driver tables s)
    (increasing : Increasing s.published) :
    Ledger.Ordered EnrichedFlight.icao24 (fun flight => flight.fetchedAt.micros)
      (s.repository.commits.map Repository.Commit.flight) := by
  rw [Ledger.Ordered, List.pairwise_map]
  refine List.Pairwise.imp_of_mem ?_ sorted
  intro earlier later first second bound same
  obtain ⟨_, message, published, aircraft, fetched⟩ := (tracked.committed earlier first).published
  obtain ⟨_, newer, republished, other, refetched⟩ := (tracked.committed later second).published
  rw [fetched, refetched]
  exact increasing.le published republished (aircraft.symm.trans (same.trans other)) (bound same)

/-- The row of an aircraft holds, of all its committed messages, the values of
the one with the greatest `fetched_at`. -/
def State.Current (s : State) : Prop :=
  ∀ icao24 row, s.repository.session.committed.current (.text icao24) = some row →
    ∃ commit ∈ s.repository.commits, commit.flight.icao24 = icao24 ∧
      row = commit.flight.modelDump ∧
      ∀ id message, s.published[id]? = some (some message) → message.state.icao24 = icao24 →
        (∃ other ∈ s.repository.commits, s.message other.call = id) →
          message.fetchedAt.micros ≤ commit.flight.fetchedAt.micros

def Forward (s t : State) : Prop :=
  ∀ icao24 (before after : EnrichedFlight),
    s.repository.session.committed.current (.text icao24) = some before.modelDump →
      t.repository.session.committed.current (.text icao24) = some after.modelDump →
        before.fetchedAt.micros ≤ after.fetchedAt.micros

theorem Tracked.current_iff (tracked : Tracked driver .empty s) (icao24 : String)
    (flight : EnrichedFlight) :
    s.repository.session.committed.current (.text icao24) = some flight.modelDump ↔
      (Ledger.recordAll EnrichedFlight.icao24
        (s.repository.commits.map Repository.Commit.flight)).latest icao24 = some flight := by
  rw [tracked.repository.committed, (Repository.serial_represents _).current,
    Option.map_eq_some_iff]
  constructor
  · rintro ⟨stored, found, same⟩
    rw [found, EnrichedFlight.modelDump_injective same]
  · exact fun found => ⟨flight, found, rfl⟩

theorem State.Sorted.current (sorted : s.Sorted) (tracked : Tracked driver .empty s)
    (increasing : Increasing s.published) : s.Current := by
  intro icao24 row found
  have represented := (Repository.serial_represents s.repository.commits).current icao24
  rw [← tracked.repository.committed, found] at represented
  obtain ⟨flight, latest, rfl⟩ := Option.map_eq_some_iff.mp represented.symm
  obtain ⟨member, aircraft⟩ := Ledger.latest_mem latest
  obtain ⟨commit, logged, rfl⟩ := List.mem_map.mp member
  refine ⟨commit, logged, aircraft, rfl, ?_⟩
  rintro id message published own ⟨other, committed, rfl⟩
  obtain ⟨_, read, republished, named, fetched⟩ := (tracked.committed other committed).published
  obtain rfl : read = message := by
    simpa only [published, Option.some.injEq, eq_comm] using republished
  have greatest := Ledger.latest_greatest (sorted.ordered tracked increasing) latest other.flight
    (List.mem_map.mpr ⟨other, committed, rfl⟩) (named.trans own)
  exact fetched ▸ greatest

theorem State.Sorted.forward (sorted : s.Sorted) (tracked : Tracked driver .empty s)
    (increasing : Increasing s.published) (step : Step settings driver s label t)
    (ordered : InPublicationOrder s label) : Forward s t := by
  intro icao24 before after found refound
  have later := tracked.step step
  rw [tracked.current_iff] at found
  rw [later.current_iff] at refound
  rcases step.commits with same | ⟨tag, reply, flight, started, rfl, _, _, grown⟩
  · rw [same, found, Option.some.injEq] at refound
    exact refound ▸ Int.le_refl _
  · have published : t.published = s.published := by
      cases step
      rfl
    have resorted := (sorted.step tracked step ordered).ordered later (published ▸ increasing)
    rw [grown, List.map_append, List.map_singleton] at refound resorted
    exact (Ledger.record_forward_iff _ (sorted.ordered tracked increasing) flight).mpr resorted
      icao24 before after found refound

/-- A step which does not keep the publication order moves a row back. -/
theorem State.Sorted.kept_order (sorted : s.Sorted) (tracked : Tracked driver .empty s)
    (increasing : Increasing s.published) (step : Step settings driver s label t)
    (forward : Forward s t) : InPublicationOrder s label := by
  cases label with
  | store action =>
    cases action with
    | commit tag reply =>
      intro effective flight known commit member same
      obtain ⟨carried, started, own, grown⟩ := step.commits_effective effective
      obtain rfl : carried = flight := Option.some.inj (own.symm.trans known)
      have later := tracked.step step
      have ordered := (Ledger.record_forward_iff _ (sorted.ordered tracked increasing) carried).mp
        (fun icao24 before after found refound => by
          refine forward icao24 before after ((tracked.current_iff _ _).mpr found) ?_
          rw [later.current_iff, grown, List.map_append, List.map_singleton]
          exact refound)
      have bound := (Ledger.ordered_concat.mp ordered).2 commit.flight
        (List.mem_map.mpr ⟨commit, member, rfl⟩) same
      by_contra after
      obtain ⟨_, message, published, named, fetched⟩ := (tracked.committed commit member).published
      obtain ⟨_, newer, republished, other, refetched⟩ :=
        (tracked.carried tag carried own).published
      have older := increasing.lt republished published
        (other.symm.trans (same.symm.trans named)) (Nat.lt_of_not_le after)
      rw [fetched, refetched] at bound
      exact Int.not_le.mpr older bound
    | _ => trivial
  | _ => trivial

/-- While the commits of each aircraft keep the publication order, its row ends
with its newest message; and a further step moves no row back exactly when it
keeps that order too. -/
theorem snapshot_current {ls : List Label}
    (run : Run (Meeting (Steps (next settings driver)) InPublicationOrder) (initial .empty) ls s)
    (increasing : Increasing s.published) :
    s.Current ∧ ∀ label t, next settings driver s label = some t →
      (Forward s t ↔ InPublicationOrder s label) := by
  have tracked := run_tracked run.forget
  have sorted := run_sorted run
  refine ⟨sorted.current tracked increasing, fun label t moved => ?_⟩
  have step := next_step moved
  exact ⟨sorted.kept_order tracked increasing step, sorted.forward tracked increasing step⟩

private def laterIsOpen (s : State) : Label → Bool
  | .store (.commit tag _) =>
    s.repository.commits.all fun commit => s.message commit.call ≤ s.message tag
  | _ => true

private theorem laterIsOpen_sound (s : State) (label : Label) (checked : laterIsOpen s label = true) :
    InPublicationOrder s label := by
  cases label with
  | store action =>
    cases action with
    | commit tag reply =>
      intro _ _ _ commit member _
      exact of_decide_eq_true (List.all_eq_true.mp checked commit member)
    | _ => trivial
  | _ => trivial

private def earlier : FlightMessage := report "738065" 0
private def later : FlightMessage := report "738065" 12

private theorem reports_increasing : Increasing [some earlier, some later] := by
  simp only [Increasing, List.pairwise_cons, List.mem_singleton, forall_eq, List.not_mem_nil,
    false_implies, implies_true, List.Pairwise.nil, and_true, Option.some.injEq]
  rintro first second rfl rfl _
  decide

private def received : List Label := [.publish earlier, .publish later, .deliver, .deliver,
  .start, .start, .enrich 0 (some none), .enrich 1 (some none)]

theorem snapshot_current_sorted : ∃ s,
    Run (Meeting (Steps (next {} fun _ => true)) InPublicationOrder) (initial .empty)
        (received ++ stored 0 ++ stored 1) s ∧
      s.published = [some earlier, some later] ∧ s.Current ∧
        ∀ label t, next {} (fun _ => true) s label = some t →
          (Forward s t ↔ InPublicationOrder s label) := by
  have passed : (replay (guarded (next {} fun _ => true) laterIsOpen) (initial .empty)
      (received ++ stored 0 ++ stored 1)).any
        (fun s => s.published = [some earlier, some later]) = true := by decide
  obtain ⟨s, run, published⟩ := run_of_test passed
  have published := of_decide_eq_true published
  have run := run.of_guarded laterIsOpen_sound
  exact ⟨s, run, published, snapshot_current run (published ▸ reports_increasing)⟩

private def movedBack (s : State) : Bool :=
  s.published = [some earlier, some later] ∧
    s.repository.commits.map (fun commit => s.message commit.call) = [1, 0] ∧
    (s.repository.session.committed.current (.text "738065")).map (· .fetchedAt) =
      some (.timestamptz 1735400010000000)

/-- Two workers reach the lock in the other order, and the row of the aircraft
ends with the older of its two messages. -/
theorem overtaken_snapshot :
    ¬ ∀ settings driver ls s, Run (Steps (next settings driver)) (initial .empty) ls s →
      Increasing s.published → s.Current := by
  intro current
  have passed : (replay (next {} fun _ => true) (initial .empty)
      (received ++ stored 1 ++ stored 0)).any movedBack = true := by decide
  obtain ⟨s, run, back⟩ := run_of_test passed
  obtain ⟨published, order, shown⟩ := of_decide_eq_true back
  obtain ⟨row, found, fetched⟩ := Option.map_eq_some_iff.mp shown
  obtain ⟨commit, member, _, rfl, greatest⟩ :=
    current _ _ _ s run (published ▸ reports_increasing) "738065" row found
  have newest := greatest 1 later (by rw [published]; rfl) rfl
    (List.mem_map.mp (by rw [order]; decide))
  simp only [EnrichedFlight.modelDump, SqlValue.timestamptz.injEq] at fetched
  rw [fetched] at newest
  exact absurd newest (by decide)

end FlightHub.Consumer
