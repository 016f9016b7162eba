import SensorityCollector.Observer
import SensorityCollector.Transition

/-!
# `subscribe()` beside the network thread

The statements of `subscribe()` and of the handlers that the network thread runs, each a step of its
own on the fields that both threads use. Over a connection the library takes every request, under an
id that no request has whose SUBACK is still to be dealt with. The broker grants what it is asked
for, and the connection is not lost.
-/

namespace SensorityCollector

open Transition

namespace Interleaving

/-- The next statement of a thread in `subscribe()`. -/
inductive Subscribing
  | ask
  | send
  | store (mid : ℕ)
  | flag
  deriving DecidableEq, Repr

/-- The next statement of the network thread: one of `onConnect`, one of the `subscribe()` that it
calls, or one of `onSubscribe` with its argument. -/
inductive Network
  | idle
  | onConnect
  | subscribing (next : Subscribing)
  | compare (messageId : ℕ)
  | clear (messageId : ℕ)
  | grant (messageId : ℕ)
  | reset (messageId : ℕ)
  deriving DecidableEq, Repr

/-- `user` is where the user's thread is in `subscribe()`, if it has called it, and `returned`
whether a call of it has come back. A request is unacknowledged until the handler of its SUBACK has
returned. -/
structure State where
  observer : SensorDataObserver
  connected : Bool
  user : Option Subscribing
  returned : Bool
  network : Network
  sent : List Request
  unacknowledged : List ℕ
  deriving DecidableEq, Repr

inductive Event
  | call
  | user (mid : ℕ)
  | connect
  | suback (messageId : ℕ)
  | network (mid : ℕ)
  deriving DecidableEq, Repr

def start (topic : String) (accessor : Sensor) : State where
  observer := (SensorDataObserver.create topic accessor).setUp
  connected := false
  user := none
  returned := false
  network := .idle
  sent := []
  unacknowledged := []

namespace State

variable (s : State)

/-- What the library may give a request as its id. -/
def Fresh (mid : ℕ) : Prop := mid ≠ InvalidMessageId ∧ mid ∉ s.unacknowledged

instance (mid : ℕ) : Decidable (s.Fresh mid) := inferInstanceAs (Decidable (_ ∧ _))

/-- What a statement of `subscribe()` does, and the one after it; `mid` is the id of the request,
should it be the one that sends. -/
def advance (mid : ℕ) : Subscribing → State × Option Subscribing
  | .ask => (s, some (if s.connected then .send else .flag))
  | .send => ({ s with sent := s.sent ++ [.subscribe mid s.observer._topic],
                       unacknowledged := s.unacknowledged ++ [mid] }, some (.store mid))
  | .store mid => ({ s with observer := { s.observer with _mid := mid } }, none)
  | .flag => ({ s with observer := { s.observer with _subscribe := true } }, none)

/-- The handler of a SUBACK has returned. -/
def acknowledged (messageId : ℕ) : State :=
  { s with network := .idle, unacknowledged := s.unacknowledged.erase messageId }

/-- What a statement of the network thread does. -/
def handle (mid : ℕ) : Network → State
  | .idle => s
  | .onConnect =>
    { s with network := if s.observer._subscribe then .subscribing .ask else .idle }
  | .subscribing next =>
    let (t, next) := s.advance mid next
    { t with network := (next.map .subscribing).getD .idle }
  | .compare messageId =>
    if messageId = s.observer._mid then { s with network := .clear messageId }
    else s.acknowledged messageId
  | .clear messageId =>
    { s with observer := { s.observer with _subscribe := false }, network := .grant messageId }
  | .grant messageId =>
    { s with observer := { s.observer with _subscribed := true }, network := .reset messageId }
  | .reset messageId =>
    { s with observer := { s.observer with _mid := InvalidMessageId } }.acknowledged messageId

end State

inductive Step : State → Event → State → Prop
  | call {s : State} : s.user = none → Step s .call { s with user := some .ask }
  | user {s t : State} {next : Subscribing} {after : Option Subscribing} (mid : ℕ) :
      s.user = some next → s.Fresh mid → s.advance mid next = (t, after) →
      Step s (.user mid) { t with user := after, returned := s.returned || after.isNone }
  | connect {s : State} : s.connected = false →
      Step s .connect { s with connected := true, network := .onConnect }
  | suback {s : State} (messageId : ℕ) : s.network = .idle → messageId ∈ s.unacknowledged →
      Step s (.suback messageId) { s with network := .compare messageId }
  | network {s : State} (mid : ℕ) : s.network ≠ .idle → s.Fresh mid →
      Step s (.network mid) (s.handle mid s.network)

def system (topic : String) (accessor : Sensor) : System State Event where
  init s := s = start topic accessor
  step := Step

end Interleaving

end SensorityCollector
