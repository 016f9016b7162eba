import SensorityCollector.Mqtt
import SensorityCollector.Transition

/-!
# The client and the library's network thread

`connect`, `disconnect`, the destructor and the callbacks that set `_connected`, over what they make
of the library's context. An asynchronous attempt under way is answered, and a lost connection
established again, at any time unless `mosquitto_disconnect` has been called since the last
`mosquitto_connect_async`. The thread ends by itself once a successful `mosquitto_disconnect` has
been carried out, and not after any other loss.
-/

namespace SensorityCollector

open Transition

/-- The network thread of a context; once it is `ending`, it serves nothing any more. -/
inductive NetworkThread
  | none
  | running
  | ending
  deriving DecidableEq, Repr

/-- `wanted` is whether the library is to establish the connection, `up` whether the broker has
accepted it, `closing` whether a successful `mosquitto_disconnect` is still to be carried out, and
`destroyed` what the thread was at when the context was destroyed, if it has been. -/
structure MosquittoContext where
  thread : NetworkThread
  wanted : Bool
  up : Bool
  closing : Bool
  destroyed : Option NetworkThread
  deriving DecidableEq, Repr

namespace MosquittoContext

variable (c : MosquittoContext)

/-- `mosquitto_connect_async`. A call that fails counts as well: it leaves the host set to which the
thread connects when it is run. -/
def connectAsync : MosquittoContext := { c with wanted := true }

/-- `mosquitto_loop_start`, which hands back `rc`. -/
def loopStart (rc : ℤ) : MosquittoContext :=
  if rc = MOSQ_ERR_SUCCESS then { c with thread := .running } else c

/-- `mosquitto_disconnect`, which hands back `rc`. -/
def disconnect (rc : ℤ) : MosquittoContext :=
  { c with wanted := false, closing := c.closing || (c.up && rc = MOSQ_ERR_SUCCESS) }

/-- `mosquitto_loop_stop` -/
def loopStop : MosquittoContext := { c with thread := .none }

/-- `mosquitto_destroy` -/
def destroy : MosquittoContext := { c with destroyed := some c.thread }

/-- The broker answers the attempt. -/
def answered (status : ℤ) : MosquittoContext :=
  { c with up := decide (convertStatus status = .Success) }

/-- The connection ends, on either side's account. -/
def lost : MosquittoContext where
  thread := if c.closing ∧ c.thread = .running then .ending else c.thread
  wanted := c.wanted
  up := false
  closing := false
  destroyed := c.destroyed

def exited : MosquittoContext := { c with thread := .none }

end MosquittoContext

/-- What leaves a call of the client: a failed `poco_assert_msg` or a `Poco::RuntimeException`. -/
inductive Failure
  | assertion (message : String)
  | runtime (e : RuntimeException)
  deriving DecidableEq, Repr

structure MqttClient where
  _connected : Bool
  _active : Bool
  _context : MosquittoContext
  deriving DecidableEq, Repr

namespace MqttClient

def create : MqttClient := ⟨false, false, ⟨.none, false, false, false, none⟩⟩

variable (c : MqttClient)

/-- `message` is what `Poco::format` makes of the host and the port, and `rcConnect`, `rcStart` and
`rcDisconnect` are what the library calls hand back. -/
def connect (message : String) (rcConnect rcStart rcDisconnect : ℤ) :
    MqttClient × Option Failure :=
  if c._connected then (c, some (.assertion "Client is connected"))
  else
    let context := c._context.connectAsync
    if rcConnect ≠ MOSQ_ERR_SUCCESS then
      ({ c with _context := context }, some (.runtime (makeException message rcConnect)))
    else if c._active then ({ c with _context := context }, none)
    else
      let context := context.loopStart rcStart
      if rcStart ≠ MOSQ_ERR_SUCCESS then
        ({ c with _context := context.disconnect rcDisconnect },
          some (.runtime (makeException "Failed start thread loop" rcStart)))
      else ({ c with _active := true, _context := context }, none)

def disconnect (rc : ℤ) : MqttClient × Option Failure :=
  if c._connected then
    ({ c with _context := c._context.disconnect rc },
      if rc ≠ MOSQ_ERR_SUCCESS then some (.runtime (makeException "Disconnect from host" rc))
      else none)
  else (c, none)

/-- `~MqttClient` -/
def destruct : MqttClient :=
  let context := if c._connected then c._context.loopStop else c._context
  { c with _context := context.destroy }

/-- Whether the callback for a CONNACK emits the connect signal. -/
def emits (status : ℤ) : Bool := convertStatus status = .Success

/-- What the callback for a CONNACK sets. -/
def connackReceived (status : ℤ) : MqttClient :=
  { c with _connected := emits status, _context := c._context.answered status }

/-- What the callback for a lost connection sets. -/
def connectionLost : MqttClient := { c with _connected := false, _context := c._context.lost }

end MqttClient

namespace Connection

/-- `connecting` is whether `connect()` has returned normally and `disconnect()` has not been called
since, `disconnected` whether `disconnect()` has returned normally and `connect()` has not been
called since. -/
structure State where
  client : MqttClient
  connecting : Bool
  disconnected : Bool
  deriving DecidableEq, Repr

inductive Event
  | connect (message : String) (rcConnect rcStart rcDisconnect : ℤ)
  | disconnect (rc : ℤ)
  | connack (status : ℤ)
  | lost
  | exit
  | destruct
  deriving DecidableEq, Repr

inductive Step : State → Event → State → Prop
  | connect {s : State} {message : String} {rcConnect rcStart rcDisconnect : ℤ} {c : MqttClient}
      {x : Option Failure} : s.client._context.destroyed = none →
      s.client.connect message rcConnect rcStart rcDisconnect = (c, x) →
      Step s (.connect message rcConnect rcStart rcDisconnect)
        { client := c, connecting := s.connecting || x.isNone, disconnected := false }
  | disconnect {s : State} {rc : ℤ} {c : MqttClient} {x : Option Failure} :
      s.client._context.destroyed = none → s.client.disconnect rc = (c, x) →
      Step s (.disconnect rc)
        { client := c, connecting := false, disconnected := s.disconnected || x.isNone }
  | connack {s : State} {status : ℤ} : s.client._context.destroyed = none →
      s.client._context.wanted = true → s.client._context.up = false →
      Step s (.connack status) { s with client := s.client.connackReceived status }
  | lost {s : State} : s.client._context.destroyed = none → s.client._context.up = true →
      Step s .lost { s with client := s.client.connectionLost }
  | exit {s : State} : s.client._context.destroyed = none → s.client._context.thread = .ending →
      Step s .exit
        { s with client := { s.client with _context := s.client._context.exited } }
  | destruct {s : State} : s.client._context.destroyed = none →
      Step s .destruct { client := s.client.destruct, connecting := false, disconnected := false }

def system : System State Event where
  init s := s = ⟨.create, false, false⟩
  step := Step

end Connection

end SensorityCollector
