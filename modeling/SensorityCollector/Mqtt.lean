import Mathlib.Tactic

/-!
# The MQTT client

What `MqttClient` makes of the return codes and callbacks of libmosquitto. A library call is given
by what it returns; a code other than `MOSQ_ERR_SUCCESS` becomes an exception.
-/

namespace SensorityCollector

def InvalidMessageId : ℕ := 0

def MOSQ_ERR_SUCCESS : ℤ := 0

def MOSQ_ERR_NO_CONN : ℤ := 4

/-- A `Poco::RuntimeException` around the library's error, which `nested` is the code of. -/
structure RuntimeException where
  message : String
  nested : ℤ
  deriving DecidableEq, Repr

def makeException (message : String) (errorCode : ℤ) : RuntimeException := ⟨message, errorCode⟩

/-- A request to the broker, and the acknowledgement of it. -/
inductive Request
  | subscribe (mid : ℕ) (topic : String)
  | unsubscribe (mid : ℕ) (topic : String)
  deriving DecidableEq, Repr

namespace Request

def mid : Request → ℕ
  | .subscribe mid _ | .unsubscribe mid _ => mid

def topic : Request → String
  | .subscribe _ topic | .unsubscribe _ topic => topic

def isSubscribe : Request → Bool
  | .subscribe _ _ => true
  | .unsubscribe _ _ => false

end Request

namespace MqttClient

/-- `rc` and `mid` are what `mosquitto_subscribe` hands back. -/
def subscribe (rc : ℤ) (mid : ℕ) : Except RuntimeException ℕ :=
  if rc ≠ MOSQ_ERR_SUCCESS then .error (makeException "Subscribe to the topic" rc) else .ok mid

/-- `rc` and `mid` are what `mosquitto_unsubscribe` hands back. -/
def unsubscribe (rc : ℤ) (mid : ℕ) : Except RuntimeException ℕ :=
  if rc ≠ MOSQ_ERR_SUCCESS then .error (makeException "Unsubscribe from the topic" rc) else .ok mid

end MqttClient

inductive MqttConnectionStatusCodes
  | Success
  | UnacceptableProtocolVersion
  | IdentifierRejected
  | ServerUnavailable
  | BadCredentials
  | NotAuthorized
  | Unknown
  deriving DecidableEq, Repr

/-- `convert(int, MqttConnectionStatusCodes&)`, of a build with `NDEBUG`. -/
def convertStatus : ℤ → MqttConnectionStatusCodes
  | 0 => .Success
  | 1 => .UnacceptableProtocolVersion
  | 2 => .IdentifierRejected
  | 3 => .ServerUnavailable
  | 4 => .BadCredentials
  | 5 => .NotAuthorized
  | _ => .Unknown

abbrev MqttGrantedQoS := List ℤ

/-- The return code of a SUBACK that refuses. -/
def SubackFailure : ℤ := 0x80

def MqttGrantedQoS.refused (qos : MqttGrantedQoS) : Bool := qos.contains SubackFailure

namespace MqttClient

/-- The static callback, with a null array as `none`: what the subscribe signal is emitted with. -/
def onSubscribe (messageId : ℕ) (qosCount : ℤ) (grantedQos : Option (List ℤ)) :
    ℕ × MqttGrantedQoS :=
  (messageId, if 0 < qosCount ∧ grantedQos ≠ none then
    (grantedQos.getD []).take qosCount.toNat else [])

end MqttClient

/-- A `mosquitto_message`; a null payload is `none`. -/
structure MosquittoMessage where
  mid : ℕ
  topic : String
  payload : Option (List UInt8)
  payloadlen : ℕ
  qos : ℕ
  retain : Bool
  length_payload : payloadlen = (payload.getD []).length

structure MqttMessage where
  id : ℕ
  topic : String
  payload : List UInt8
  qos : ℕ
  retain : Bool
  deriving DecidableEq, Repr

/-- `convert(const mosquitto_message*, MqttMessage&)`. -/
def convert (m : MosquittoMessage) : MqttMessage where
  id := m.mid
  topic := m.topic
  payload := if 0 < m.payloadlen then (m.payload.getD []).take m.payloadlen else []
  qos := m.qos
  retain := m.retain

namespace MqttClient

/-- The static callback: what it emits, if anything. -/
def onMessage (m : MosquittoMessage) : Option MqttMessage :=
  if m.payload ≠ none ∧ 0 < m.payloadlen then some (convert m) else none

end MqttClient

end SensorityCollector
