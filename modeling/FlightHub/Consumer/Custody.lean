import FlightHub.Consumer.Service
import Mathlib.Data.List.GetD
import Mathlib.Data.List.Perm.Basic

/-! Where each delivery and each message is. A delivery is queued in the thread
pool, with a worker, with a pending callback, settled, or abandoned when its
connection or process ended; a message is in the queue, in an unsettled delivery
of the open connection, or settled. Nothing is in two places. -/
namespace FlightHub.Consumer
open Postgres Transition
variable {settings : Settings} {driver : Driver} {tables : Database} {s t : State}

/-- The deliveries for which the consumer still has to issue a settlement. -/
def State.held (s : State) : List Tag := s.executor ++ s.running.keys ++ s.callbacks.map Prod.fst

structure Custody (s : State) : Prop where
  tags : (s.held ++ s.settled.map Prod.fst ++ s.abandoned).Perm (List.range s.deliveries.length)
  unacked : s.phase.connected = true → s.unacked.Perm s.held
  disconnected : s.phase.connected = false → s.unacked = []
  messages : (s.queue ++ (s.unacked ++ s.settled.map Prod.fst).map s.message).Perm
    (List.range s.published.length)
  abandoned : s.phase.connected = true → ∀ tag ∈ s.abandoned, tag < s.firstTag
  closed : s.phase = .closed → s.held = []

theorem initial_custody (tables : Database) : Custody (initial tables) where
  tags := .refl _
  unacked _ := .refl _
  disconnected same := by cases same
  messages := .refl _
  abandoned _ := by simp [initial]
  closed same := by cases same

theorem keys_insert_perm {running : AList fun _ : Tag => Work} {tag : Tag} {work : Work}
    (running_tag : tag ∈ running.keys) : (running.insert tag work).keys.Perm running.keys := by
  rw [AList.keys_insert]
  exact (List.perm_cons_erase running_tag).symm

theorem mem_keys_of_lookup {running : AList fun _ : Tag => Work} {tag : Tag} {work : Work}
    (found : running.lookup tag = some work) : tag ∈ running.keys :=
  AList.lookup_isSome.mp (by rw [found]; rfl)

namespace Custody

theorem nodup (custody : Custody s) :
    (s.held ++ s.settled.map Prod.fst ++ s.abandoned).Nodup :=
  custody.tags.nodup_iff.mpr List.nodup_range

theorem delivered (custody : Custody s) {tag : Tag}
    (member : tag ∈ s.held ++ s.settled.map Prod.fst ++ s.abandoned) : tag < s.deliveries.length :=
  List.mem_range.mp (custody.tags.mem_iff.mp member)

theorem unacked_held (custody : Custody s) {tag : Tag} (member : tag ∈ s.unacked) :
    tag ∈ s.held := by
  cases connected : s.phase.connected with
  | true => exact (custody.unacked connected).mem_iff.mp member
  | false =>
    rw [custody.disconnected connected] at member
    cases member

/-- Where no message is queued or unsettled, each has been settled once. -/
theorem all_settled (custody : Custody s) (queued : s.queue = []) (unacked : s.unacked = []) :
    (s.settled.map fun entry => s.message entry.1).Perm (List.range s.published.length) := by
  have messages := custody.messages
  rw [queued, unacked, List.nil_append, List.nil_append, List.map_map] at messages
  exact messages

theorem messages_nodup (custody : Custody s) :
    (s.queue ++ (s.unacked ++ s.settled.map Prod.fst).map s.message).Nodup :=
  custody.messages.nodup_iff.mpr List.nodup_range

theorem moved (custody : Custody s) {executor : List Tag} {running : AList fun _ : Tag => Work}
    {callbacks : List (Tag × Bool)}
    (held : (executor ++ running.keys ++ callbacks.map Prod.fst).Perm s.held)
    (raised : List (Tag × Failure)) (repository : Repository.State) :
    Custody { s with executor, running, callbacks, raised, repository } where
  tags := ((held.append_right _).append_right _).trans custody.tags
  unacked connected := (custody.unacked connected).trans held.symm
  disconnected := custody.disconnected
  messages := custody.messages
  abandoned := custody.abandoned
  closed closed := List.perm_nil.mp (custody.closed closed ▸ held)

theorem worked (custody : Custody s) {tag : Tag} (running : tag ∈ s.running.keys) (work : Work)
    (raised : List (Tag × Failure)) (repository : Repository.State) :
    Custody { s.work tag work with raised, repository } :=
  custody.moved (((keys_insert_perm running).append_left _).append_right _) raised repository

theorem publish (custody : Custody s) (body : Body) :
    Custody { s with
      published := s.published ++ [body], queue := s.queue ++ [s.published.length] } where
  tags := custody.tags
  unacked := custody.unacked
  disconnected := custody.disconnected
  messages := by
    have grown := custody.messages.append_right [s.published.length]
    rw [List.length_append, List.length_singleton, List.range_succ]
    refine .trans ?_ grown
    rw [List.append_assoc, List.append_assoc]
    exact List.perm_append_comm.append_left _
  abandoned := custody.abandoned
  closed := custody.closed

theorem message_onMessage (s : State) (id : MessageId) {tag : Tag} (old : tag < s.deliveries.length) :
    (s.onMessage id).message tag = s.message tag := by
  simp only [State.message, State.onMessage]
  exact List.getD_append _ _ _ _ old

theorem message_delivered (s : State) (id : MessageId) :
    (s.onMessage id).message s.deliveries.length = id := by
  simp [State.message, State.onMessage]

theorem deliver (custody : Custody s) {id : MessageId} {queue : List MessageId}
    (next_up : s.queue = id :: queue) (consuming : s.phase = .consuming) :
    Custody ({ s with queue }.onMessage id) where
  tags := by
    simp only [State.held, State.onMessage, List.length_append, List.length_singleton,
      List.range_succ]
    have tags := custody.tags
    rw [List.perm_iff_count] at tags ⊢
    intro tag
    have count := tags tag
    simp only [State.held, List.count_append] at count ⊢
    omega
  unacked connected := by
    have unacked := custody.unacked (by rw [consuming]; rfl)
    rw [List.perm_iff_count] at unacked ⊢
    intro tag
    have count := unacked tag
    simp only [State.held, State.onMessage, List.count_append] at count ⊢
    omega
  disconnected lost := by
    simp only [State.onMessage, consuming] at lost
    cases lost
  messages := by
    have old : ∀ tag ∈ s.unacked ++ s.settled.map Prod.fst,
        ({ s with queue }.onMessage id).message tag = s.message tag := by
      intro tag member
      refine message_onMessage { s with queue } id (custody.delivered ?_)
      rcases List.mem_append.mp member with member | member
      · simp [custody.unacked_held member]
      · exact List.mem_append_left _ (List.mem_append_right _ member)
    have messages := custody.messages
    rw [next_up] at messages
    refine .trans ?_ messages
    simp only [State.onMessage, List.map_append, List.map_singleton]
    have unacked := List.map_congr_left fun tag member => old tag (List.mem_append_left _ member)
    have settled := List.map_congr_left fun tag member => old tag (List.mem_append_right _ member)
    simp only [State.onMessage] at unacked settled
    rw [unacked, settled]
    have new := message_delivered { s with queue } id
    simp only [State.onMessage] at new
    rw [new, List.perm_iff_count]
    intro other
    simp only [List.count_append, List.count_cons, List.count_nil]
    omega
  abandoned := by
    intro _ tag member
    exact custody.abandoned (by rw [consuming]; rfl) tag member
  closed closed := by
    simp only [State.onMessage, consuming] at closed
    cases closed

theorem unstarted (custody : Custody s) {tag : Tag} {executor : List Tag}
    (first : s.executor = tag :: executor) : tag ∉ s.running.keys := by
  have nodup := custody.nodup
  simp only [State.held, first, List.cons_append, List.append_assoc, List.nodup_cons] at nodup
  intro member
  exact nodup.1 (List.mem_append_right _ (List.mem_append_left _ member))

theorem start (custody : Custody s) {tag : Tag} {executor : List Tag}
    (first : s.executor = tag :: executor) : Custody ({ s with executor }.work tag .received) := by
  refine custody.moved ?_ s.raised s.repository
  rw [AList.keys_insert, List.erase_of_not_mem (custody.unstarted first), State.held, first]
  exact List.perm_middle.append_right _

theorem schedule (custody : Custody s) {tag : Tag} (running : tag ∈ s.running.keys) (ok : Bool) :
    Custody ({ s with running := s.running.erase tag }.addCallback tag ok) := by
  have split := List.perm_cons_erase running
  rw [List.perm_iff_count] at split
  unfold State.addCallback
  split
  · next connected =>
    refine custody.moved ?_ s.raised s.repository
    rw [List.perm_iff_count]
    intro other
    have count := split other
    simp only [State.held, AList.keys_erase, List.map_append, List.map_singleton,
      List.count_append, List.count_cons, List.count_nil] at count ⊢
    omega
  · next lost =>
    have lost : s.phase.connected = false := by simpa using lost
    refine ⟨?_, fun connected => ?_, fun _ => custody.disconnected lost, custody.messages,
      fun connected => ?_, fun closed => ?_⟩
    · have tags := custody.tags
      rw [List.perm_iff_count] at tags ⊢
      intro other
      have count := split other
      have before := tags other
      simp only [State.held, AList.keys_erase, List.count_append, List.count_cons,
        List.count_nil] at count before ⊢
      omega
    · exact absurd (lost.symm.trans connected) nofun
    · exact absurd (lost.symm.trans connected) nofun
    · have member : tag ∈ s.held := by simp [State.held, running]
      rw [custody.closed closed] at member
      cases member

theorem settle (custody : Custody s) {position : Nat} {tag : Tag} {ok : Bool}
    (pending : s.callbacks[position]? = some (tag, ok)) (connected : s.phase.connected = true) :
    Custody ({ s with callbacks := s.callbacks.eraseIdx position }.ackOrNack tag ok) := by
  obtain ⟨bound, at_position⟩ := List.getElem?_eq_some_iff.mp pending
  have split := (List.getElem_cons_eraseIdx_perm bound).map Prod.fst
  rw [at_position, List.map_cons, List.perm_iff_count] at split
  have unacked := custody.unacked connected
  have member : tag ∈ s.unacked := by
    rw [unacked.mem_iff, State.held]
    exact List.mem_append_right _ (List.mem_map.mpr ⟨_, List.mem_of_getElem? pending, rfl⟩)
  have removed := List.perm_cons_erase member
  refine ⟨?_, fun _ => ?_, fun lost => ?_, ?_, custody.abandoned, fun closed => ?_⟩
  · have tags := custody.tags
    rw [List.perm_iff_count] at tags ⊢
    intro other
    have count := split other
    have before := tags other
    simp only [State.held, State.ackOrNack, List.map_append, List.map_singleton, List.count_append,
      List.count_cons, List.count_nil] at count before ⊢
    omega
  · rw [List.perm_iff_count] at unacked removed ⊢
    intro other
    have count := split other
    have before := unacked other
    have kept := removed other
    simp only [State.held, State.ackOrNack, List.count_append, List.count_cons] at count before kept ⊢
    omega
  · exact absurd (connected.symm.trans lost) nofun
  · have mapped := removed.map s.message
    have shifted : (s.queue ++ (s.unacked.erase tag ++ (s.settled ++ [(tag, ok)]).map Prod.fst).map
        s.message).Perm (s.queue ++ (s.unacked ++ s.settled.map Prod.fst).map s.message) := by
      rw [List.perm_iff_count] at mapped ⊢
      intro other
      have kept := mapped other
      simp only [List.map_append, List.map_cons, List.map_nil, List.count_append, List.count_cons,
        List.count_nil] at kept ⊢
      omega
    exact shifted.trans custody.messages
  · have lost : s.phase.connected = false := by
      have closed : s.phase = .closed := closed
      rw [closed]
      rfl
    exact absurd (connected.symm.trans lost) nofun

theorem disconnected_custody (custody : Custody s) : Custody s.disconnected where
  tags := by
    have tags := custody.tags
    rw [List.perm_iff_count] at tags ⊢
    intro tag
    have before := tags tag
    simp only [State.held, State.disconnected, List.map_nil, List.count_append, List.count_nil]
      at before ⊢
    omega
  unacked connected := by cases connected
  disconnected _ := rfl
  messages := by
    refine .trans ?_ custody.messages
    rw [List.perm_iff_count]
    intro id
    change List.count id (s.unacked.map s.message ++ s.queue ++
      ([] ++ s.settled.map Prod.fst).map s.message) = _
    simp only [List.map_append, List.nil_append, List.count_append]
    omega
  abandoned connected := by cases connected
  closed closed := by cases closed

theorem exit (custody : Custody s) : Custody s.exit where
  tags := by
    have tags := custody.disconnected_custody.tags
    rw [List.perm_iff_count] at tags ⊢
    intro tag
    have before := tags tag
    simp only [State.held, State.exit, State.disconnected, AList.keys_empty, List.map_nil,
      List.count_append, List.count_nil] at before ⊢
    omega
  unacked connected := by cases connected
  disconnected _ := rfl
  messages := custody.disconnected_custody.messages
  abandoned connected := by cases connected
  closed _ := rfl

theorem phase (custody : Custody s) {phase : Phase}
    (connected : s.phase.connected = true ∧ phase.connected = true) : Custody { s with phase } where
  tags := custody.tags
  unacked _ := custody.unacked connected.1
  disconnected lost := absurd (connected.2.symm.trans lost) nofun
  messages := custody.messages
  abandoned _ := custody.abandoned connected.1
  closed closed := by
    have closed : phase = .closed := closed
    rw [closed] at connected
    cases connected.2

theorem restart (custody : Custody s) (closed : s.phase = .closed)
    (repository : Repository.State) :
    Custody { s with phase := .consuming, firstTag := s.deliveries.length, repository } where
  tags := custody.tags
  unacked _ := by
    have none_left := custody.disconnected (by rw [closed]; rfl)
    exact .of_eq (none_left.trans (custody.closed closed).symm)
  disconnected lost := by cases lost
  messages := custody.messages
  abandoned _ tag member := custody.delivered (List.mem_append_right _ member)
  closed same := by cases same

theorem step (custody : Custody s) {label : Label} (step : Step settings driver s label t) :
    Custody t := by
  cases step with
  | publish body => exact custody.publish body
  | deliver next_up consuming _ => exact custody.deliver next_up consuming
  | start first _ _ => exact custody.start first
  | failed found _ => exact custody.worked (mem_keys_of_lookup found) _ _ s.repository
  | enriched found _ _ => exact custody.worked (mem_keys_of_lookup found) _ s.raised _
  | store _ _ _ => exact custody.moved (.refl _) s.raised _
  | returned found _ => exact custody.worked (mem_keys_of_lookup found) _ s.raised s.repository
  | raised found _ => exact custody.worked (mem_keys_of_lookup found) _ _ s.repository
  | schedule found => exact custody.schedule (mem_keys_of_lookup found) _
  | settle pending looping =>
    refine custody.settle pending ?_
    cases phase : s.phase <;> rw [phase] at looping <;> first | rfl | cases looping
  | signal consuming => exact custody.phase ⟨by rw [consuming]; rfl, rfl⟩
  | leaveLoop stopping => exact custody.phase ⟨by rw [stopping]; rfl, rfl⟩
  | close _ _ _ => exact custody.exit
  | disconnect _ => exact custody.disconnected_custody
  | crash _ => exact custody.exit
  | restart closed => exact custody.restart closed _

end Custody

theorem run_custody {ls : List Label} (run : Run (Steps (next settings driver)) (initial tables) ls s) :
    Custody s :=
  run.invariant (fun custody moved => custody.step (next_step moved)) (initial_custody tables)

end FlightHub.Consumer
