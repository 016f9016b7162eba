import SensorityCollector.Mqtt
import SensorityCollector.Sensor

/-!
# The observer of one sensor's topic

The handlers of `SensorDataObserver`, each as what it makes of the observer's three fields and the
request it hands to the client. A handler that throws changes nothing.
-/

namespace SensorityCollector

/-- The five `scoped_connection`s, each with whether its slot is connected. -/
structure Connections where
  _onConnectCon : Bool
  _onDisconnectCon : Bool
  _onSubscribeCon : Bool
  _onUnsubscribeCon : Bool
  _onMessageCon : Bool
  deriving DecidableEq, Repr

structure SensorDataObserver where
  _topic : String
  _accessor : Sensor
  _mid : ℕ
  _subscribe : Bool
  _subscribed : Bool
  connections : Connections
  deriving DecidableEq, Repr

namespace SensorDataObserver

def create (topic : String) (accessor : Sensor) : SensorDataObserver where
  _topic := topic
  _accessor := accessor
  _mid := InvalidMessageId
  _subscribe := false
  _subscribed := false
  connections := ⟨false, false, false, false, false⟩

variable (o : SensorDataObserver)

def setUp : SensorDataObserver := { o with connections := ⟨true, true, true, true, true⟩ }

def tearDown : SensorDataObserver := { o with connections := ⟨false, false, false, false, false⟩ }

/-- `connected` is what the client answers, `call` what its `subscribe` does. -/
def subscribe (connected : Bool) (call : Except RuntimeException ℕ) :
    Except RuntimeException (SensorDataObserver × Option Request) :=
  if connected then
    match call with
    | .ok mid => .ok ({ o with _mid := mid }, some (.subscribe mid o._topic))
    | .error e => .error e
  else .ok ({ o with _subscribe := true }, none)

/-- `call` is what the client's `unsubscribe` does. -/
def unsubscribe (call : Except RuntimeException ℕ) :
    Except RuntimeException (SensorDataObserver × Option Request) :=
  if o._subscribed then
    match call with
    | .ok mid => .ok ({ o with _mid := mid }, some (.unsubscribe mid o._topic))
    | .error e => .error e
  else .ok (o, none)

def onConnect (connected : Bool) (call : Except RuntimeException ℕ) :
    Except RuntimeException (SensorDataObserver × Option Request) :=
  if o._subscribe then o.subscribe connected call else .ok (o, none)

theorem subscribe_up (mid : ℕ) :
    o.subscribe true (MqttClient.subscribe MOSQ_ERR_SUCCESS mid)
      = .ok ({ o with _mid := mid }, some (.subscribe mid o._topic)) := by
  simp [subscribe, MqttClient.subscribe]

theorem subscribe_down (call : Except RuntimeException ℕ) :
    o.subscribe false call = .ok ({ o with _subscribe := true }, none) := by
  simp [subscribe]

variable {o} in
theorem onConnect_pending (h : o._subscribe = true) (connected : Bool)
    (call : Except RuntimeException ℕ) : o.onConnect connected call = o.subscribe connected call :=
  if_pos h

variable {o} in
theorem onConnect_idle (h : o._subscribe = false) (connected : Bool)
    (call : Except RuntimeException ℕ) : o.onConnect connected call = .ok (o, none) := by
  simp [onConnect, h]

def onDisconnect (durable : Bool) : SensorDataObserver :=
  if o._subscribed && !durable then { o with _subscribe := true } else o

def onSubscribe (messageId : ℕ) : SensorDataObserver :=
  if messageId = o._mid then
    { o with _subscribe := false, _subscribed := true, _mid := InvalidMessageId }
  else o

def onUnsubscribe (messageId : ℕ) : SensorDataObserver :=
  if messageId = o._mid then
    { o with _subscribe := false, _subscribed := false, _mid := InvalidMessageId }
  else o

/-- The slot of the subscribe signal. -/
def subscribeSlot (messageId : ℕ) (_ : MqttGrantedQoS) : SensorDataObserver :=
  o.onSubscribe messageId

/-- The slot an acknowledgement is delivered to. -/
def acknowledge : Request → SensorDataObserver
  | .subscribe mid _ => o.onSubscribe mid
  | .unsubscribe mid _ => o.onUnsubscribe mid

/-- What the observer puts into its accessor. -/
def onMessage (message : MqttMessage) : Option (List UInt8) :=
  if message.topic = o._topic then some message.payload else none

end SensorDataObserver

end SensorityCollector
