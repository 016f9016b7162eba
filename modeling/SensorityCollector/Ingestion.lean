import SensorityCollector.Collected
import SensorityCollector.Observer

/-!
# From the client's message callback to the queue

The eight observers of the storage subsystem on one client. The network thread calls the slots of
the message signal one after the other, and the puts they make hand their jobs to `process()`,
while the storage's worker does as it likes. An exception that leaves a slot leaves the signal, and
the slots behind it are not called.
-/

namespace SensorityCollector

open Sql Transition

namespace StorageSubsystem

/-- `config.getString(key, default)`. -/
def getString (config : String → Option String) (key default : String) : String :=
  (config key).getD default

def createObserver (config : String → Option String) : List SensorDataObserver :=
  [.create (getString config "data.topics.topic1" "temperature") .temperature,
    .create (getString config "data.topics.topic2" "pressure") .pressure,
    .create (getString config "data.topics.topic3" "gas") .gas,
    .create (getString config "data.topics.topic4" "humidity") .humidity,
    .create (getString config "data.topics.topic5" "iaq") .iaq,
    .create (getString config "data.topics.topic6" "Co2") .co2,
    .create (getString config "data.topics.topic7" "BreathVOC") .breathVoc,
    .create (getString config "data.topics.topic8" "TVOC") .tvoc]

/-- The topic that the sensor's readings are taken from. -/
def topic (config : String → Option String) : Sensor → String
  | .temperature => getString config "data.topics.topic1" "temperature"
  | .pressure => getString config "data.topics.topic2" "pressure"
  | .gas => getString config "data.topics.topic3" "gas"
  | .humidity => getString config "data.topics.topic4" "humidity"
  | .iaq => getString config "data.topics.topic5" "iaq"
  | .co2 => getString config "data.topics.topic6" "Co2"
  | .breathVoc => getString config "data.topics.topic7" "BreathVOC"
  | .tvoc => getString config "data.topics.topic8" "TVOC"

end StorageSubsystem

variable {V F κ : Type} {c : Numbers F}

/-- What the client's signal calls for the observer: `onMessage` with the put it makes. -/
def SensorDataObserver.slot [Zero F] (p : Platform V F) (o : SensorDataObserver)
    (clock : Sensor → ℕ → Int64) (message : MqttMessage) : AccessorM F κ Unit :=
  if o.connections._onMessageCon then
    match o.onMessage message with
    | some input => DataAccessor.put p o._accessor (clock o._accessor) input none none
    | none => pure ()
  else pure ()

namespace Ingestion

/-- A message from the library, and the clock as the accessors read it when they parse it. -/
structure Delivery where
  message : MosquittoMessage
  clock : Sensor → ℕ → Int64

/-- A message that is being emitted, and the observers whose slots have not been called. -/
structure Emission where
  message : MqttMessage
  clock : Sensor → ℕ → Int64
  slots : List SensorDataObserver

/-- `pending` are the jobs of the current slot that `process()` has not been called with. What has
been received, who has seen what and whether an exception has left the signal is recorded. -/
structure State (F κ : Type) where
  storage : DataStorage.State (Job F κ) Unit (World F κ)
  emitting : Option Emission
  pending : List (Job F κ)
  received : List Delivery
  seen : List (Sensor × MqttMessage)
  escaped : Bool

def start (w : World F κ) : State F κ where
  storage := DataStorage.fresh w
  emitting := none
  pending := []
  received := []
  seen := []
  escaped := false

inductive Event (κ : Type) (c : Numbers F)
  | receive (d : Delivery)
  | slot
  | process (job : Job F κ)
  | returned
  | storage (e : DataStorage.Event (Job F κ) Unit (Faults c))

def Event.isCall : DataStorage.Event (Job F κ) Unit (Faults c) → Bool
  | .call _ _ => true
  | _ => false

/-- Whether the network thread is in neither a slot nor `process()`. -/
def State.free (s : State F κ) : Prop := s.pending = [] ∧ s.storage.producers () = none

variable [Zero F]

/-- One step of the network thread, or one of the storage that is not its call. -/
inductive Step (p : Platform V F) (slots : List SensorDataObserver) :
    State F κ → Event κ c → State F κ → Prop
  | receive {s : State F κ} {d : Delivery} : s.emitting = none →
      Step p slots s (.receive d)
        { s with received := s.received ++ [d],
                 emitting := (MqttClient.onMessage d.message).map fun m => ⟨m, d.clock, slots⟩ }
  | slot {s : State F κ} {m : MqttMessage} {clock : Sensor → ℕ → Int64} {o : SensorDataObserver}
      {rest : List SensorDataObserver} {e : Effects F κ} :
      s.emitting = some ⟨m, clock, o :: rest⟩ → s.free → o.slot p clock m ⟨[], []⟩ = .ok () e →
      Step p slots s .slot
        { s with emitting := some ⟨m, clock, rest⟩, pending := e.processed,
                 seen := s.seen ++ [(o._accessor, m)] }
  | slotThrows {s : State F κ} {m : MqttMessage} {clock : Sensor → ℕ → Int64}
      {o : SensorDataObserver} {rest : List SensorDataObserver} {x : Exn} {e : Effects F κ} :
      s.emitting = some ⟨m, clock, o :: rest⟩ → s.free → o.slot p clock m ⟨[], []⟩ = .error x e →
      Step p slots s .slot
        { s with emitting := none, pending := e.processed, seen := s.seen ++ [(o._accessor, m)],
                 escaped := true }
  | process {s : State F κ} {job : Job F κ} {rest : List (Job F κ)}
      {t : DataStorage.State (Job F κ) Unit (World F κ)} : s.pending = job :: rest →
      DataStorage.Step (DataStorage.config c) s.storage (.call () job) t →
      Step p slots s (.process job) { s with storage := t, pending := rest }
  | returned {s : State F κ} {m : MqttMessage} {clock : Sensor → ℕ → Int64} :
      s.emitting = some ⟨m, clock, []⟩ → s.free →
      Step p slots s .returned { s with emitting := none }
  | storage {s : State F κ} {e : DataStorage.Event (Job F κ) Unit (Faults c)}
      {t : DataStorage.State (Job F κ) Unit (World F κ)} : Event.isCall e = false →
      DataStorage.Step (DataStorage.config c) s.storage e t →
      Step p slots s (.storage e) { s with storage := t }

def system (c : Numbers F) (p : Platform V F) (slots : List SensorDataObserver)
    (w₀ : World F κ → Prop) : System (State F κ) (Event κ c) where
  init s := ∃ w, w₀ w ∧ s = start w
  step := Step p slots

omit [Zero F] in
/-- What an event is for the storage. -/
def Event.onStorage : Event κ c → Option (DataStorage.Event (Job F κ) Unit (Faults c))
  | .process job => some (.call () job)
  | .storage e => some e
  | .receive _ | .slot | .returned => none

/-- The readings in the messages that arrived on the topic, in the order of their arrival. -/
def readings (p : Platform V F) (S : Sensor) (topic : String) (received : List Delivery) :
    List (S.Data F) :=
  received.flatMap fun d =>
    if d.message.topic = topic then
      S.accessor.readings p (d.clock S) (d.message.payload.getD [])
    else []

/-- The elements that are readings of the sensor, in the arrays of the messages that arrived on the
topic, in their order, each with what the clock says when it is read. -/
def arrivals (p : Platform V F) (S : Sensor) (topic : String) (received : List Delivery) :
    List (Var V × Int64) :=
  received.flatMap fun d =>
    if d.message.topic = topic then
      match p.parse (d.message.payload.getD []) with
      | some (.array items) =>
        (items.filter (S.accepts p)).mapIdx fun n item => (item, d.clock S n)
      | _ => []
    else []

end Ingestion

end SensorityCollector
