import SensorityCollector.Ingestion
import SensorityCollector.Sharing
import SensorityCollector.Subsystem

/-!
# The observers in the application

`StorageSubsystem` is initialised before `ConnectivitySubsystem`, so all observers are set up and
have subscribed before the client first connects. Nobody calls them after that until the shutdown,
at which the client is disconnected before they unsubscribe. The observers stand in a set that is
ordered by their addresses.
-/

namespace SensorityCollector

open Transition

/-- What the loop leaves, the requests it has made, and the exception that leaves it, if one
does. -/
def CompositeDataObserver.subscribe (connected : Bool) (call : ℕ → Except RuntimeException ℕ) :
    ℕ → List SensorDataObserver → Emitted
  | _, [] => ⟨[], [], none⟩
  | n, o :: rest =>
    match o.subscribe connected (call n) with
    | .error e => ⟨o :: rest, [], some e⟩
    | .ok (o, r) =>
      let x := subscribe connected call (n + 1) rest
      ⟨o :: x.observers, (r.map (Sent.mk n)).toList ++ x.requests, x.thrown⟩

namespace StorageSubsystem

/-- What the last two statements of `initialize()` make of the observers that `createObserver()` has
put into the set. The client is not connected yet. -/
def subscribeObservers (call : ℕ → Except RuntimeException ℕ)
    (observers : List SensorDataObserver) : Emitted :=
  CompositeDataObserver.subscribe false call 0 (CompositeDataObserver.setUp observers)

end StorageSubsystem

namespace Application

open Sharing

/-- The client's sessions are clean ones. -/
def durable : Bool := false

def start (observers : List SensorDataObserver) : State :=
  { Sharing.start [] with observers := observers }

/-- What the network thread does. -/
def served : Event → Bool
  | .subscribe _ _ _ | .unsubscribe _ _ _ => false
  | .connect _ _ | .disconnect | .serve _ | .acknowledge _ => true

/-- From the end of the initialisation to the beginning of the shutdown, nobody but the network
thread does anything to the observers. -/
def system (config : String → Option String) : System State Event where
  init s := ∃ call observers, observers.Perm (StorageSubsystem.createObserver config)
    ∧ s = start (StorageSubsystem.subscribeObservers call observers).observers
  step s e t := served e = true ∧ Step durable s e t

/-- A SUBSCRIBE for each topic, in the order of the observers. -/
def requests (mid : ℕ → ℕ) (topics : List String) : List Sent :=
  topics.mapIdx fun n topic => ⟨n, .subscribe (mid n) topic⟩

/-- What an event asks the broker for, up to the first request that the library rejects. -/
def asked (topics : List String) : Event → List Sent
  | .connect rc mid => (requests mid topics).takeWhile fun r => rc r.owner = MOSQ_ERR_SUCCESS
  | _ => []

end Application

end SensorityCollector
