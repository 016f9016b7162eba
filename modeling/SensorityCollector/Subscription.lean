import SensorityCollector.Observer
import SensorityCollector.Transition

/-!
# One observer, its client and the broker

The runs of a `SensorDataObserver` that has been set up: calls of the user, handlers on the
network thread, and the broker, which serves the requests in the order they were sent. Between
the change of `connected()` and the handler of the event the user may come in. A lost connection
takes with it all requests and acknowledgements under way; the broker keeps the subscription of a
durable client only.
-/

namespace SensorityCollector

open Transition

namespace Subscription

/-- `connecting` and `disconnecting`: the handler of the event has not returned. -/
inductive Link
  | disconnected
  | connecting
  | connected
  | disconnecting
  deriving DecidableEq, Repr

/-- `MqttClient::connected()`. -/
def Link.up : Link → Bool
  | .connecting | .connected => true
  | .disconnected | .disconnecting => false

inductive Call
  | subscribe
  | unsubscribe
  deriving DecidableEq, Repr

/-- `sent` and `acks` are under way to the broker and back, `held` is what the broker has.
`lastCall` is the user's last call (an `unsubscribe()` that threw is none), `since` the requests
sent since, its own included. -/
structure State where
  observer : SensorDataObserver
  link : Link
  sent : List Request
  acks : List Request
  held : Bool
  lastCall : Option Call
  since : List Request
  deriving DecidableEq, Repr

def start (topic : String) (accessor : Sensor) : State where
  observer := (SensorDataObserver.create topic accessor).setUp
  link := .disconnected
  sent := []
  acks := []
  held := false
  lastCall := none
  since := []

/-- `rc` and `mid` are what the library answers to a request that is sent, if one is;
`granted` is whether the broker grants a SUBSCRIBE. -/
inductive Event
  | subscribe (rc : ℤ) (mid : ℕ)
  | unsubscribe (rc : ℤ) (mid : ℕ)
  | connect
  | onConnect (rc : ℤ) (mid : ℕ)
  | disconnect
  | onDisconnect
  | serve (granted : Bool)
  | acknowledge (r : Request)
  deriving DecidableEq, Repr

namespace State

/-- A request is accepted only over a connection, and its id is that of no other under way. -/
def Answers (s : State) (rc : ℤ) (mid : ℕ) : Prop :=
  rc = MOSQ_ERR_SUCCESS →
    s.link.up = true ∧ mid ≠ InvalidMessageId ∧ ∀ r ∈ s.sent ++ s.acks, r.mid ≠ mid

/-- A handler that throws leaves everything as it was. -/
def handle (s : State) : Except RuntimeException (SensorDataObserver × Option Request) → State
  | .ok (o, r) => { s with observer := o, sent := s.sent ++ r.toList, since := s.since ++ r.toList }
  | .error _ => s

def called (s : State) (call : Call) : State := { s with lastCall := some call, since := [] }

end State

/-- What the broker has for the topic once it has served `r`. -/
def hold (granted held : Bool) (r : Request) : Bool :=
  if r.isSubscribe then granted || held else false

inductive Step (durable : Bool) : State → Event → State → Prop
  | subscribe {s : State} {rc : ℤ} {mid : ℕ} : s.Answers rc mid →
      Step durable s (.subscribe rc mid)
        ((s.called .subscribe).handle
          (s.observer.subscribe s.link.up (MqttClient.subscribe rc mid)))
  | unsubscribe {s : State} {rc : ℤ} {mid : ℕ} {x : SensorDataObserver × Option Request} :
      s.Answers rc mid → s.observer.unsubscribe (MqttClient.unsubscribe rc mid) = .ok x →
      Step durable s (.unsubscribe rc mid) ((s.called .unsubscribe).handle (.ok x))
  | unsubscribeThrows {s : State} {rc : ℤ} {mid : ℕ} {e : RuntimeException} :
      s.Answers rc mid → s.observer.unsubscribe (MqttClient.unsubscribe rc mid) = .error e →
      Step durable s (.unsubscribe rc mid) s
  | connect {s : State} : s.link = .disconnected →
      Step durable s .connect { s with link := .connecting }
  | onConnect {s : State} {rc : ℤ} {mid : ℕ} : s.link = .connecting → s.Answers rc mid →
      Step durable s (.onConnect rc mid)
        ({ s with link := .connected }.handle
          (s.observer.onConnect s.link.up (MqttClient.subscribe rc mid)))
  | disconnect {s : State} : s.link = .connected →
      Step durable s .disconnect
        { s with link := .disconnecting, sent := [], acks := [], held := s.held && durable }
  | onDisconnect {s : State} : s.link = .disconnecting →
      Step durable s .onDisconnect
        { s with link := .disconnected, observer := s.observer.onDisconnect durable }
  | serve {s : State} {r : Request} {rest : List Request} {granted : Bool} : s.link.up = true →
      s.sent = r :: rest →
      Step durable s (.serve granted)
        { s with sent := rest, acks := s.acks ++ [r], held := hold granted s.held r }
  | acknowledge {s : State} {r : Request} : s.link = .connected → r ∈ s.acks →
      Step durable s (.acknowledge r)
        { s with acks := s.acks.erase r, observer := s.observer.acknowledge r }

instance (s : State) (rc : ℤ) (mid : ℕ) : Decidable (s.Answers rc mid) :=
  inferInstanceAs (Decidable (_ → _ ∧ _ ∧ ∀ r ∈ _, _))

/-- The step of an event, computed. -/
def fire (durable : Bool) (s : State) : Event → Option State
  | .subscribe rc mid =>
    if s.Answers rc mid then
      some ((s.called .subscribe).handle
        (s.observer.subscribe s.link.up (MqttClient.subscribe rc mid)))
    else none
  | .unsubscribe rc mid =>
    if s.Answers rc mid then
      match s.observer.unsubscribe (MqttClient.unsubscribe rc mid) with
      | .ok x => some ((s.called .unsubscribe).handle (.ok x))
      | .error _ => some s
    else none
  | .connect => if s.link = .disconnected then some { s with link := .connecting } else none
  | .onConnect rc mid =>
    if s.link = .connecting ∧ s.Answers rc mid then
      some ({ s with link := .connected }.handle
        (s.observer.onConnect s.link.up (MqttClient.subscribe rc mid)))
    else none
  | .disconnect =>
    if s.link = .connected then
      some { s with link := .disconnecting, sent := [], acks := [], held := s.held && durable }
    else none
  | .onDisconnect =>
    if s.link = .disconnecting then
      some { s with link := .disconnected, observer := s.observer.onDisconnect durable }
    else none
  | .serve granted =>
    match s.sent with
    | r :: rest =>
      if s.link.up then
        some { s with sent := rest, acks := s.acks ++ [r], held := hold granted s.held r }
      else none
    | [] => none
  | .acknowledge r =>
    if s.link = .connected ∧ r ∈ s.acks then
      some { s with acks := s.acks.erase r, observer := s.observer.acknowledge r }
    else none

def system (durable : Bool) (topic : String) (accessor : Sensor) : System State Event where
  init s := s = start topic accessor
  step := Step durable

theorem fire_step {durable : Bool} {s t : State} {e : Event} (h : fire durable s e = some t) :
    Step durable s e t := by
  cases e with
  | subscribe rc mid =>
    simp only [fire] at h
    split_ifs at h with ha
    obtain rfl := Option.some.inj h
    exact .subscribe ha
  | unsubscribe rc mid =>
    simp only [fire] at h
    split_ifs at h with ha
    split at h <;> obtain rfl := Option.some.inj h
    · exact .unsubscribe ha (by assumption)
    · exact .unsubscribeThrows ha (by assumption)
  | connect =>
    simp only [fire] at h
    split_ifs at h with hl
    obtain rfl := Option.some.inj h
    exact .connect hl
  | onConnect rc mid =>
    simp only [fire] at h
    split_ifs at h with hl
    obtain rfl := Option.some.inj h
    exact .onConnect hl.1 hl.2
  | disconnect =>
    simp only [fire] at h
    split_ifs at h with hl
    obtain rfl := Option.some.inj h
    exact .disconnect hl
  | onDisconnect =>
    simp only [fire] at h
    split_ifs at h with hl
    obtain rfl := Option.some.inj h
    exact .onDisconnect hl
  | serve granted =>
    simp only [fire] at h
    split at h
    · split_ifs at h with hl
      obtain rfl := Option.some.inj h
      exact .serve hl (by assumption)
    · simp at h
  | acknowledge r =>
    simp only [fire] at h
    split_ifs at h with hl
    obtain rfl := Option.some.inj h
    exact .acknowledge hl.1 hl.2

variable {durable : Bool} {topic : String} {accessor : Sensor} {C : State → Event → Prop}

theorem run_of_fire [∀ s e, Decidable (C s e)] {s t : State} {es : List Event}
    (h : es.foldlM (fun s e => if C s e then fire durable s e else none) s = some t) :
    (system durable topic accessor).Run C s es t := by
  refine System.Run.of_foldlM (fun s e t h => ?_) h
  split_ifs at h with hc
  exact ⟨hc, fire_step h⟩

end Subscription

end SensorityCollector
