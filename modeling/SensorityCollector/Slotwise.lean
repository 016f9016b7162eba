import SensorityCollector.Application

/-!
# Callbacks, slot by slot

The application between its start and its shutdown with each callback of the network thread taken
apart: it sets what it sets, then the signal calls one slot after the other, and the broker may
serve a request between any two of them.
-/

namespace SensorityCollector

open Transition

namespace Slotwise

open Sharing

/-- A callback that emits a signal. -/
inductive Callback
  | connect (rc : ℕ → ℤ) (mid : ℕ → ℕ)
  | disconnect
  | acknowledge (a : Ack)

namespace Callback

def Enabled (s : Sharing.State) : Callback → Prop
  | .connect _ _ => s.connected = false
  | .disconnect => s.connected = true
  | .acknowledge a => s.connected = true ∧ a ∈ s.acks

/-- What the callback leaves before it emits. -/
def opened (s : Sharing.State) : Callback → Sharing.State
  | .connect _ _ => { s with connected := true }
  | .disconnect =>
    { s with connected := false, sent := [], acks := [],
             held := if Application.durable then s.held else [] }
  | .acknowledge a => { s with acks := s.acks.erase a, heard := s.heard ++ [a] }

/-- What the `n`-th slot does. -/
def slot (n : ℕ) (o : SensorDataObserver) :
    Callback → Except RuntimeException (SensorDataObserver × Option Request)
  | .connect rc mid => o.onConnect true (MqttClient.subscribe (rc n) (mid n))
  | .disconnect => .ok (o.onDisconnect Application.durable, none)
  | .acknowledge a => .ok (o.receive a, none)

end Callback

/-- The `n`-th slot is called. -/
inductive Called (c : Callback) (n : ℕ) : Sharing.State → Sharing.State → Prop
  | ok {s : Sharing.State} {o o' : SensorDataObserver} {r : Option Request} :
      s.observers[n]? = some o → c.slot n o = .ok (o', r) →
      s.Accepts (r.map (Sent.mk n)).toList →
      Called c n s ({ s with observers := s.observers.set n o' }.send (r.map (Sent.mk n)).toList)

/-- `emission` is the callback under way and the slot whose turn it is. -/
structure State where
  sharing : Sharing.State
  emission : Option (Callback × ℕ)

inductive Event
  | enter (c : Callback)
  | slot
  | thrown
  | finish
  | serve (qos : MqttGrantedQoS)

inductive Step : State → Event → State → Prop
  | enter {s : State} {c : Callback} : s.emission = none → c.Enabled s.sharing →
      Step s (.enter c) ⟨c.opened s.sharing, some (c, 0)⟩
  | slot {s : State} {c : Callback} {n : ℕ} {t : Sharing.State} : s.emission = some (c, n) →
      Called c n s.sharing t → Step s .slot ⟨t, some (c, n + 1)⟩
  | thrown {s : State} {c : Callback} {n : ℕ} {o : SensorDataObserver} {e : RuntimeException} :
      s.emission = some (c, n) → s.sharing.observers[n]? = some o → c.slot n o = .error e →
      Step s .thrown ⟨s.sharing, none⟩
  | finish {s : State} {c : Callback} : s.emission = some (c, s.sharing.observers.length) →
      Step s .finish ⟨s.sharing, none⟩
  | serve {s : State} {qos : MqttGrantedQoS} {t : Sharing.State} :
      Sharing.Step Application.durable s.sharing (.serve qos) t →
      Step s (.serve qos) { s with sharing := t }

def system (config : String → Option String) : System State Event where
  init s := (Application.system config).init s.sharing ∧ s.emission = none
  step := Step

end Slotwise

end SensorityCollector
