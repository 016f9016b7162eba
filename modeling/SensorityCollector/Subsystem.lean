import SensorityCollector.Observer
import SensorityCollector.Storage

/-!
# The end of the storage subsystem

`StorageSubsystem::uninitialize()`: the storage is torn down, then the observers unsubscribe and
let go of the client, then the SQLite connector is unregistered. Nothing in it catches the
exception of a request that the client's library refuses. When an observer's turn comes, the network
thread may have called its handlers, and the client may have lost its connection.
-/

namespace SensorityCollector

open Transition

/-- An observer's turn in `unsubscribe()`: what the network thread has made of it by then, whether
the client has a connection, and what `mosquitto_unsubscribe` answers. -/
structure Turn where
  network : SensorDataObserver → SensorDataObserver
  connected : Bool
  rc : ℤ
  mid : ℕ
  no_conn : connected = false → rc = MOSQ_ERR_NO_CONN

namespace CompositeDataObserver

def setUp (observers : List SensorDataObserver) : List SensorDataObserver :=
  observers.map SensorDataObserver.setUp

def tearDown (observers : List SensorDataObserver) : List SensorDataObserver :=
  observers.map SensorDataObserver.tearDown

/-- What the loop leaves, and the exception that leaves it, if one does. -/
def unsubscribe (turn : ℕ → Turn) :
    ℕ → List SensorDataObserver → List SensorDataObserver × Option RuntimeException
  | _, [] => ([], none)
  | n, o :: rest =>
    let o := (turn n).network o
    match o.unsubscribe (MqttClient.unsubscribe (turn n).rc (turn n).mid) with
    | .error e => (o :: rest, some e)
    | .ok (o, _) =>
      let (rest, e) := unsubscribe turn (n + 1) rest
      (o :: rest, e)

end CompositeDataObserver

/-- The subsystem, with its observers in the order of their set; `registered` is whether the SQLite
connector is. -/
structure StorageSubsystem (J T W : Type*) where
  _storage : Option (DataStorage.State J T W)
  _observer : Option (List SensorDataObserver)
  registered : Bool

namespace StorageSubsystem

variable {J T W O : Type*}

/-- `stopped` is what `_storage->tearDown()` leaves. -/
def uninitialize (turn : ℕ → Turn) (stopped : Option (DataStorage.State J T W))
    (s : StorageSubsystem J T W) : StorageSubsystem J T W × Option RuntimeException :=
  match s._observer with
  | none => ({ s with _storage := stopped, registered := false }, none)
  | some observers =>
    match CompositeDataObserver.unsubscribe turn 0 observers with
    | (observers, some e) => ({ s with _storage := stopped, _observer := some observers }, some e)
    | (observers, none) =>
      ({ s with _storage := stopped, _observer := some (CompositeDataObserver.tearDown observers),
                registered := false }, none)

end StorageSubsystem

end SensorityCollector
