import Mathlib.Data.Finset.Sort
import SensorityCollector.Observer
import SensorityCollector.Signal

/-!
# The slots of the observers

`setUp()` and `tearDown()`, statement by statement, in the thread that the observers belong to,
while the network thread emits the client's signals. A slot refers to its observer weakly, and its
call keeps the observer. The destructor of one that nobody refers to any more lets go of its
connections; the observers of a composite stand in a set that is ordered by their addresses.
-/

namespace SensorityCollector

open Transition Signals

namespace Wiring

/-- The client's functions that connect a slot. -/
inductive Kind
  | onSubscribe
  | onUnsubscribe
  | onConnect
  | onDisconnect
  | onMessage
  deriving DecidableEq, Repr

/-- The `scoped_connection` of what a function of the client has connected. -/
def Kind.connection (c : Connections) : Kind → Bool
  | onSubscribe => c._onSubscribeCon
  | onUnsubscribe => c._onUnsubscribeCon
  | onConnect => c._onConnectCon
  | onDisconnect => c._onDisconnectCon
  | onMessage => c._onMessageCon

/-- A statement of `setUp()` or of `tearDown()`. -/
inductive Statement (α : Type)
  | connect (k : Kind) (o : α)
  | disconnect (k : Kind) (o : α)
  deriving DecidableEq, Repr

variable {α : Type}

def Statement.observer : Statement α → α
  | .connect _ o | .disconnect _ o => o

def setUp (o : α) : List (Statement α) :=
  [.connect .onSubscribe o, .connect .onUnsubscribe o, .connect .onConnect o,
    .connect .onDisconnect o, .connect .onMessage o]

def tearDown (o : α) : List (Statement α) :=
  [.disconnect .onSubscribe o, .disconnect .onUnsubscribe o, .disconnect .onConnect o,
    .disconnect .onDisconnect o, .disconnect .onMessage o]

/-- `connections` has the slots that the observers' connections refer to, `pointers` are the
observers that somebody outside of the composite refers to. `todo` is left of the call under way,
and `assigned` is the slot it has connected and not assigned yet. -/
structure State (α : Type) where
  signals : Kind → Signal α
  connections : α → Kind → Option ℕ
  created : Finset α
  pointers : Finset α
  _observers : Finset α
  todo : List (Statement α)
  assigned : Option ℕ
  emissions : Kind → Emission α
  destructed : Set α

def start : State α where
  signals _ := .empty
  connections _ _ := none
  created := ∅
  pointers := ∅
  _observers := ∅
  todo := []
  assigned := none
  emissions _ := .idle
  destructed := ∅

/-- A call has the observers that it is made for, in their order. -/
inductive Event (α : Type)
  | create (o : α)
  | add (o : α)
  | remove (o : α)
  | clear
  | letGo (o : α)
  | setUp (os : List α)
  | tearDown (os : List α)
  | connect (k : Kind) (o : α)
  | assign (k : Kind) (o : α)
  | disconnect (k : Kind) (o : α)
  | destruct (k : Kind) (o : α)
  | network (k : Kind) (e : Emission.Event α)

namespace State

variable (s : State α)

/-- The observers that nobody refers to any more, but for a call that is running. -/
def released : Set α := {o | o ∈ s.created ∧ o ∉ s.pointers ∧ o ∉ s._observers}

/-- Whether the slot that the observer has a connection for is connected. -/
def connected [DecidableEq α] (o : α) (k : Kind) : Bool :=
  (s.signals k).slots.any fun slot => slot.target = o ∧ s.connections o k = some slot.id

variable [LinearOrder α]

/-- An observer is called by itself, those of the composite in their order. -/
def Callee (os : List α) : Prop := (∃ o ∈ s.pointers, os = [o]) ∨ os = s._observers.sort

/-- What `disconnect()` of a connection leaves. -/
def disconnect (k : Kind) (o : α) : State α :=
  { s with signals := Function.update s.signals k ((s.signals k).disconnect (s.connections o k)) }

/-- The client has connected a slot. -/
def connect (k : Kind) (o : α) : State α :=
  { s with signals := Function.update s.signals k ((s.signals k).connect o),
           assigned := some (s.signals k).next }

/-- The slot is assigned to the connection, which disconnects what it has referred to. -/
def assign (k : Kind) (o : α) (id : ℕ) : State α :=
  { s with
      signals := Function.update s.signals k ((s.signals k).disconnect (s.connections o k)),
      connections := Function.update s.connections o
        (Function.update (s.connections o) k (some id)),
      todo := s.todo.tail, assigned := none }

/-- A statement of `tearDown()` has been carried out. -/
def drop (k : Kind) (o : α) : State α := { s.disconnect k o with todo := s.todo.tail }

end State

variable [LinearOrder α]

inductive Step : State α → Event α → State α → Prop
  | create {s : State α} {o : α} : o ∉ s.created →
      Step s (.create o) { s with created := insert o s.created, pointers := insert o s.pointers }
  | add {s : State α} {o : α} : s.todo = [] → o ∈ s.pointers →
      Step s (.add o) { s with _observers := insert o s._observers }
  | remove {s : State α} {o : α} : s.todo = [] → o ∈ s.pointers →
      Step s (.remove o) { s with _observers := s._observers.erase o }
  | clear {s : State α} : s.todo = [] → Step s .clear { s with _observers := ∅ }
  | letGo {s : State α} {o : α} : s.todo = [] →
      Step s (.letGo o) { s with pointers := s.pointers.erase o }
  | setUp {s : State α} {os : List α} : s.todo = [] → s.Callee os →
      Step s (.setUp os) { s with todo := os.flatMap Wiring.setUp }
  | tearDown {s : State α} {os : List α} : s.todo = [] → s.Callee os →
      Step s (.tearDown os) { s with todo := os.flatMap Wiring.tearDown }
  | connect {s : State α} {k : Kind} {o : α} : s.todo.head? = some (.connect k o) →
      s.assigned = none → Step s (.connect k o) (s.connect k o)
  | assign {s : State α} {k : Kind} {o : α} {id : ℕ} : s.todo.head? = some (.connect k o) →
      s.assigned = some id → Step s (.assign k o) (s.assign k o id)
  | disconnect {s : State α} {k : Kind} {o : α} : s.todo.head? = some (.disconnect k o) →
      Step s (.disconnect k o) (s.drop k o)
  | destruct {s : State α} {k : Kind} {o : α} : o ∈ s.released →
      (∀ k, ¬(s.emissions k).Runs o) →
      Step s (.destruct k o) { s.disconnect k o with destructed := insert o s.destructed }
  | network {s : State α} {k : Kind} {e : Emission.Event α} {x : Emission α} :
      (∀ k', k' ≠ k → s.emissions k' = .idle) →
      Emission.Step (s.signals k) s.released (s.emissions k) e x →
      Step s (.network k e) { s with emissions := Function.update s.emissions k x }

def system (α : Type) [LinearOrder α] : System (State α) (Event α) where
  init s := s = start
  step := Step

/-- What the calls make of one observer. -/
def heard (o : α) (x : SensorDataObserver) : Event α → SensorDataObserver
  | .setUp os => if o ∈ os then x.setUp else x
  | .tearDown os => if o ∈ os then x.tearDown else x
  | _ => x

/-- The slot whose handler an event begins, by the signal. -/
def Event.begun (k : Kind) : Event α → Option (Slot α)
  | .network k' (.call slot) => if k' = k then some slot else none
  | _ => none

/-- Whether the event is a call for the observer. -/
def Event.about (o : α) : Event α → Bool
  | .setUp os | .tearDown os => o ∈ os
  | _ => false

end Wiring

end SensorityCollector
