import SensorityCollector.Observer
import SensorityCollector.Transition

/-!
# Observers that share a client

Any number of `SensorDataObserver`s that have been set up on one client. Its signals call their
slots in the order in which they were connected, and an exception that leaves a slot leaves the
signal; acknowledgements come to all of them, in any order. A lost connection takes the requests
and acknowledgements under way with it, and no id of a request under way is used again.
-/

namespace SensorityCollector

open Transition

/-- A request, with the place of the observer it is from. -/
structure Sent where
  owner : ℕ
  request : Request
  deriving DecidableEq, Repr

/-- A SUBACK with its granted QoS, or an UNSUBACK, which has none. -/
structure Ack where
  sent : Sent
  qos : MqttGrantedQoS
  deriving DecidableEq, Repr

/-- What an emission of the connect signal leaves, the requests handed to the library during it, and
the exception that leaves it, if one does. -/
structure Emitted where
  observers : List SensorDataObserver
  requests : List Sent
  thrown : Option RuntimeException
  deriving DecidableEq, Repr

namespace MqttClient

/-- `call n` is what the client's `subscribe` does if the `n`-th slot calls it. -/
def emitConnectSignal (connected : Bool) (call : ℕ → Except RuntimeException ℕ) :
    ℕ → List SensorDataObserver → Emitted
  | _, [] => ⟨[], [], none⟩
  | n, o :: rest =>
    match o.onConnect connected (call n) with
    | .error e => ⟨o :: rest, [], some e⟩
    | .ok (o, r) =>
      let x := emitConnectSignal connected call (n + 1) rest
      ⟨o :: x.observers, (r.map (Sent.mk n)).toList ++ x.requests, x.thrown⟩

/-- The static callback: what `_connected` is set to, and the emission. -/
def onConnect (status : ℤ) (call : ℕ → Except RuntimeException ℕ)
    (observers : List SensorDataObserver) : Bool × Emitted :=
  match convertStatus status with
  | .Success => (true, emitConnectSignal true call 0 observers)
  | _ => (false, ⟨observers, [], none⟩)

/-- The static callback: what `_connected` is set to, and what the disconnect signal leaves. -/
def onDisconnect (durable : Bool) (observers : List SensorDataObserver) :
    Bool × List SensorDataObserver :=
  (false, observers.map fun o => o.onDisconnect durable)

end MqttClient

/-- What the client's callback for the acknowledgement makes of the observer. -/
def SensorDataObserver.receive (o : SensorDataObserver) (a : Ack) : SensorDataObserver :=
  match a.sent.request with
  | .subscribe mid _ =>
    let (mid, qos) := MqttClient.onSubscribe mid a.qos.length (some a.qos)
    o.subscribeSlot mid qos
  | .unsubscribe mid _ => o.onUnsubscribe mid

namespace Sharing

/-- `sent` and `acks` are under way to the broker and back, and `held` are the topics the broker has
subscriptions for. All requests ever sent and all acknowledgements delivered are recorded in
`issued` and `heard`. -/
structure State where
  observers : List SensorDataObserver
  connected : Bool
  sent : List Sent
  acks : List Ack
  held : List String
  issued : List Sent
  heard : List Ack
  deriving DecidableEq, Repr

def start (topics : List (String × Sensor)) : State where
  observers := topics.map fun t => (SensorDataObserver.create t.1 t.2).setUp
  connected := false
  sent := []
  acks := []
  held := []
  issued := []
  heard := []

/-- `rc` and `mid` are what the library answers to a request, by the observer that makes it. -/
inductive Event
  | subscribe (n : ℕ) (rc : ℤ) (mid : ℕ)
  | unsubscribe (n : ℕ) (rc : ℤ) (mid : ℕ)
  | connect (rc : ℕ → ℤ) (mid : ℕ → ℕ)
  | disconnect
  | serve (qos : MqttGrantedQoS)
  | acknowledge (a : Ack)

namespace State

def unacknowledged (s : State) : List Sent := s.sent ++ s.acks.map Ack.sent

/-- The library accepts requests over a connection only, each under an id of its own. -/
def Accepts (s : State) (rs : List Sent) : Prop :=
  (rs ≠ [] → s.connected = true) ∧ (∀ r ∈ rs, r.request.mid ≠ InvalidMessageId)
    ∧ ((s.unacknowledged ++ rs).map fun r => r.request.mid).Nodup

def send (s : State) (rs : List Sent) : State :=
  { s with sent := s.sent ++ rs, issued := s.issued ++ rs }

end State

/-- The topics the broker has once it has served a request. -/
def hold (granted : Bool) (held : List String) : Request → List String
  | .subscribe _ topic => if granted then topic :: held else held
  | .unsubscribe _ topic => held.filter fun t => t ≠ topic

inductive Step (durable : Bool) : State → Event → State → Prop
  | subscribe {s : State} {n : ℕ} {rc : ℤ} {mid : ℕ} {o o' : SensorDataObserver}
      {r : Option Request} : s.observers[n]? = some o →
      o.subscribe s.connected (MqttClient.subscribe rc mid) = .ok (o', r) →
      s.Accepts (r.map (Sent.mk n)).toList →
      Step durable s (.subscribe n rc mid)
        ({ s with observers := s.observers.set n o' }.send (r.map (Sent.mk n)).toList)
  | unsubscribe {s : State} {n : ℕ} {rc : ℤ} {mid : ℕ} {o o' : SensorDataObserver}
      {r : Option Request} : s.observers[n]? = some o →
      o.unsubscribe (MqttClient.unsubscribe rc mid) = .ok (o', r) →
      s.Accepts (r.map (Sent.mk n)).toList →
      Step durable s (.unsubscribe n rc mid)
        ({ s with observers := s.observers.set n o' }.send (r.map (Sent.mk n)).toList)
  | subscribeThrows {s : State} {n : ℕ} {rc : ℤ} {mid : ℕ} {o : SensorDataObserver}
      {e : RuntimeException} : s.observers[n]? = some o →
      o.subscribe s.connected (MqttClient.subscribe rc mid) = .error e →
      Step durable s (.subscribe n rc mid) s
  | unsubscribeThrows {s : State} {n : ℕ} {rc : ℤ} {mid : ℕ} {o : SensorDataObserver}
      {e : RuntimeException} : s.observers[n]? = some o →
      o.unsubscribe (MqttClient.unsubscribe rc mid) = .error e →
      Step durable s (.unsubscribe n rc mid) s
  | connect {s : State} {rc : ℕ → ℤ} {mid : ℕ → ℕ} {connected : Bool} {x : Emitted} :
      s.connected = false →
      MqttClient.onConnect 0 (fun n => MqttClient.subscribe (rc n) (mid n)) s.observers
        = (connected, x) →
      { s with connected := connected }.Accepts x.requests →
      Step durable s (.connect rc mid)
        ({ s with connected := connected, observers := x.observers }.send x.requests)
  | disconnect {s : State} {connected : Bool} {observers : List SensorDataObserver} :
      s.connected = true →
      MqttClient.onDisconnect durable s.observers = (connected, observers) →
      Step durable s .disconnect
        { s with connected := connected, observers := observers, sent := [], acks := [],
                 held := if durable then s.held else [] }
  | serve {s : State} {r : Sent} {rest : List Sent} {qos : MqttGrantedQoS} : s.connected = true →
      s.sent = r :: rest →
      Step durable s (.serve qos)
        { s with sent := rest, acks := s.acks ++ [⟨r, qos⟩],
                 held := hold (!qos.refused) s.held r.request }
  | acknowledge {s : State} {a : Ack} : s.connected = true → a ∈ s.acks →
      Step durable s (.acknowledge a)
        { s with acks := s.acks.erase a, observers := s.observers.map fun o => o.receive a,
                 heard := s.heard ++ [a] }

def system (durable : Bool) (topics : List (String × Sensor)) : System State Event where
  init s := s = start topics
  step := Step durable

end Sharing

end SensorityCollector
