import FlightHub.Common.Models
import FlightHub.Transition.Run
import Mathlib.Data.List.Perm.Basic
import Mathlib.Logic.Function.Basic

/-! `ingestion/publisher.py` and the broker, without confirm mode: a frame
which `basic_publish` has handed to a socket is read and enqueued later, or lost
with its connection, and the publisher learns neither. Calls of `publish` are
numbered; a step of the environment may fall between any two of the publisher. -/
namespace FlightHub
open Transition

namespace RabbitMQPublisher

/-- The frame of one `basic_publish`: `again` in the second attempt of the call. -/
structure Frame where
  call : Nat
  again : Bool
  message : FlightMessage
deriving DecidableEq

/-- Where the publisher stands. `connect` keeps the frame which waits for it,
if it was called by `publish`, and the attempts which it has left. -/
inductive Phase where
  | idle
  | connecting (frame : Option Frame) (left : Nat)
  | sending (frame : Frame)
  | sent (frame : Frame)
deriving DecidableEq

/-- How a call of `publish` ended; `again` when its second attempt returned. -/
inductive Outcome where
  | returned (again : Bool)
  | raised
deriving DecidableEq

/-- How far a failed attempt of `connect` came: `BlockingConnection`, `channel`
or a declaration raised. -/
inductive Stage where
  | connection
  | channel
  | topology
deriving DecidableEq

/-- Connections are numbered in the order in which they were opened; `usable`
is whether the channel of a connection can still carry frames, and `isClosed`
what pika has noticed. `unread` holds the frames which the broker has not read,
each with its connection. `handed` and `dropped` are the history of what was
handed to a socket and of what was lost there. -/
structure State where
  opened : Nat := 0
  usable : Nat → Bool := fun _ => false
  isClosed : Nat → Bool := fun _ => false
  connection : Option Nat := none
  channel : Option Nat := none
  phase : Phase := .idle
  messages : List FlightMessage := []
  outcomes : List Outcome := []
  unread : List (Nat × Frame) := []
  queue : List Frame := []
  handed : List Frame := []
  dropped : List Frame := []

/-- `retryable` when the exception is an `AMQPConnectionError`. -/
inductive Label where
  | connect
  | publish (message : FlightMessage)
  | ready
  | refuse (stage : Stage) (closed retryable : Bool)
  | send
  | complete
  | fail
  | read (link : Nat)
  | lose (link : Nat)
  | notice (link : Nat)

def connectAttempts : Nat := 10

namespace State

def finish (s : State) (outcome : Outcome) : State :=
  { s with phase := .idle, outcomes := s.outcomes ++ [outcome] }

/-- After `_connection` and `_channel` were replaced. -/
def connected (s : State) : State :=
  { s with
    opened := s.opened + 1
    usable := Function.update s.usable s.opened true
    isClosed := Function.update s.isClosed s.opened false
    connection := some s.opened
    channel := some s.opened }

/-- What a failed attempt of `connect` leaves behind. -/
def halfConnected (s : State) (stage : Stage) (closed : Bool) : State :=
  match stage with
  | .connection => s
  | .channel | .topology =>
    { s with
      opened := s.opened + 1
      usable := Function.update s.usable s.opened false
      isClosed := Function.update s.isClosed s.opened closed
      connection := some s.opened
      channel := if stage = .topology then some s.opened else s.channel }

/-- `basic_publish` raised: the first attempt reconnects for a second. -/
def sendFailed (s : State) (frame : Frame) : State :=
  if frame.again then s.finish .raised
  else { s with phase := .connecting (some { frame with again := true }) (connectAttempts - 1) }

end State

/-- The broker reads the frames of one connection in their order. We assume that
it reads none of them once the connection is lost: `lose` stands for the moment
after which neither side carries on with it. -/
def next (s : State) : Label → Option State
  | .connect =>
    if s.phase = .idle then some { s with phase := .connecting none (connectAttempts - 1) } else none
  | .publish message =>
    if s.phase = .idle then
      let called := { s with messages := s.messages ++ [message] }
      let frame := ⟨s.messages.length, false, message⟩
      if s.channel.isNone then some (called.finish .raised)
      else if s.connection.all s.isClosed then
        some { called with phase := .connecting (some frame) (connectAttempts - 1) }
      else some { called with phase := .sending frame }
    else none
  | .ready =>
    match s.phase with
    | .connecting none _ => some { s.connected with phase := .idle }
    | .connecting (some frame) _ => some { s.connected with phase := .sending frame }
    | _ => none
  | .refuse stage closed retryable =>
    match s.phase with
    | .connecting frame left =>
      let s := s.halfConnected stage closed
      if retryable = true ∧ 0 < left then some { s with phase := .connecting frame (left - 1) }
      else if frame.isSome then some (s.finish .raised)
      else some { s with phase := .idle }
    | _ => none
  | .send =>
    match s.phase, s.channel with
    | .sending frame, some link =>
      if s.usable link then
        some { s with
          phase := .sent frame
          unread := s.unread ++ [(link, frame)]
          handed := s.handed ++ [frame] }
      else some (s.sendFailed frame)
    | _, _ => none
  | .complete =>
    match s.phase with
    | .sent frame => some (s.finish (.returned frame.again))
    | _ => none
  | .fail =>
    match s.phase, s.channel with
    | .sent frame, some link => if s.usable link then none else some (s.sendFailed frame)
    | _, _ => none
  | .read link =>
    (s.unread.find? fun entry => entry.1 = link).map fun entry =>
      { s with unread := s.unread.erase entry, queue := s.queue ++ [entry.2] }
  | .lose link =>
    if link < s.opened then
      some { s with
        usable := Function.update s.usable link false
        unread := s.unread.filter fun entry => entry.1 ≠ link
        dropped := s.dropped ++ (s.unread.filter fun entry => entry.1 = link).map Prod.snd }
    else none
  | .notice link =>
    if s.usable link then none else some { s with isClosed := Function.update s.isClosed link true }

variable {s t : State} {label : Label}

def State.called (s : State) (message : FlightMessage) : State :=
  { s with messages := s.messages ++ [message] }

/-- The steps, one constructor for each branch of the publisher and each event
of its environment. -/
inductive Step (s : State) : Label → State → Prop where
  | connect (idle : s.phase = .idle) :
      Step s .connect { s with phase := .connecting none (connectAttempts - 1) }
  | unconnected (message : FlightMessage) (idle : s.phase = .idle) :
      Step s (.publish message) ((s.called message).finish .raised)
  | reconnect (message : FlightMessage) (idle : s.phase = .idle) :
      Step s (.publish message) { s.called message with
        phase := .connecting (some ⟨s.messages.length, false, message⟩) (connectAttempts - 1) }
  | begin (message : FlightMessage) (idle : s.phase = .idle) :
      Step s (.publish message)
        { s.called message with phase := .sending ⟨s.messages.length, false, message⟩ }
  | ready {left : Nat} (connecting : s.phase = .connecting none left) :
      Step s .ready { s.connected with phase := .idle }
  | proceed {frame : Frame} {left : Nat} (connecting : s.phase = .connecting (some frame) left) :
      Step s .ready { s.connected with phase := .sending frame }
  | retry {frame : Option Frame} {left : Nat} {stage : Stage} {closed : Bool}
      (connecting : s.phase = .connecting frame left) :
      Step s (.refuse stage closed true)
        { s.halfConnected stage closed with phase := .connecting frame (left - 1) }
  | giveUp {frame : Frame} {left : Nat} {stage : Stage} {closed retryable : Bool}
      (connecting : s.phase = .connecting (some frame) left) :
      Step s (.refuse stage closed retryable) ((s.halfConnected stage closed).finish .raised)
  | unready {left : Nat} {stage : Stage} {closed retryable : Bool}
      (connecting : s.phase = .connecting none left) :
      Step s (.refuse stage closed retryable) { s.halfConnected stage closed with phase := .idle }
  | hand {frame : Frame} {link : Nat} (sending : s.phase = .sending frame)
      (channel : s.channel = some link) (usable : s.usable link = true) :
      Step s .send { s with
        phase := .sent frame
        unread := s.unread ++ [(link, frame)]
        handed := s.handed ++ [frame] }
  | lost {frame : Frame} (sending : s.phase = .sending frame) : Step s .send (s.sendFailed frame)
  | complete {frame : Frame} (sent : s.phase = .sent frame) :
      Step s .complete (s.finish (.returned frame.again))
  | fail {frame : Frame} {link : Nat} (sent : s.phase = .sent frame)
      (channel : s.channel = some link) (unusable : s.usable link = false) :
      Step s .fail (s.sendFailed frame)
  | read {link : Nat} {entry : Nat × Frame} (member : entry ∈ s.unread) :
      Step s (.read link) { s with unread := s.unread.erase entry, queue := s.queue ++ [entry.2] }
  | lose {link : Nat} (opened : link < s.opened) :
      Step s (.lose link) { s with
        usable := Function.update s.usable link false
        unread := s.unread.filter fun entry => entry.1 ≠ link
        dropped := s.dropped ++ (s.unread.filter fun entry => entry.1 = link).map Prod.snd }
  | notice {link : Nat} :
      Step s (.notice link) { s with isClosed := Function.update s.isClosed link true }

theorem next_step (moved : next s label = some t) : Step s label t := by
  cases label with
  | connect =>
    obtain ⟨idle, moved⟩ := Option.ite_none_right_eq_some.mp moved
    cases moved
    exact .connect idle
  | publish message =>
    obtain ⟨idle, moved⟩ := Option.ite_none_right_eq_some.mp moved
    dsimp only at moved
    split at moved
    · cases moved
      exact .unconnected message idle
    · split at moved
      · cases moved
        exact .reconnect message idle
      · cases moved
        exact .begin message idle
  | ready =>
    simp only [next] at moved
    split at moved
    · next connecting => cases moved; exact .ready connecting
    · next connecting => cases moved; exact .proceed connecting
    · cases moved
  | refuse stage closed retryable =>
    simp only [next] at moved
    split at moved
    · next frame left connecting =>
      split at moved
      · next again =>
        obtain ⟨rfl, _⟩ := again
        cases moved
        exact .retry connecting
      · split at moved
        · next publishing =>
          obtain ⟨frame, rfl⟩ := Option.isSome_iff_exists.mp publishing
          cases moved
          exact .giveUp connecting
        · next alone =>
          obtain rfl := Option.not_isSome_iff_eq_none.mp alone
          cases moved
          exact .unready connecting
    · cases moved
  | send =>
    simp only [next] at moved
    split at moved
    · next frame link sending channel =>
      split at moved
      · next usable => cases moved; exact .hand sending channel usable
      · cases moved
        exact .lost sending
    · cases moved
  | complete =>
    simp only [next] at moved
    split at moved
    · next sent => cases moved; exact .complete sent
    · cases moved
  | fail =>
    simp only [next] at moved
    split at moved
    · next frame link sent channel =>
      obtain ⟨unusable, moved⟩ := Option.ite_none_left_eq_some.mp moved
      cases moved
      exact .fail sent channel (Bool.not_eq_true _ ▸ unusable)
    · cases moved
  | read link =>
    obtain ⟨entry, found, rfl⟩ := Option.map_eq_some_iff.mp moved
    exact .read (List.mem_of_find?_eq_some found)
  | lose link =>
    obtain ⟨opened, moved⟩ := Option.ite_none_right_eq_some.mp moved
    cases moved
    exact .lose opened
  | notice link =>
    obtain ⟨_, moved⟩ := Option.ite_none_left_eq_some.mp moved
    cases moved
    exact .notice

end RabbitMQPublisher
end FlightHub
