import SensorityCollector.Application
import SensorityCollector.Ingestion

/-!
# From the publishers to the tables

The application between its start and its shutdown, its broker and those who publish to it. The
broker routes a message to the client if one of the client's subscriptions lets it, one copy however
many do, and keeps it if it is to be retained: what is retained is sent again whenever a SUBSCRIBE
for it is served. What the broker has sent is under way until the network thread takes it in or the
connection is lost, and is not repeated. The network thread handles one thing after the other, so no
other callback runs during the message signal.
-/

namespace SensorityCollector

open Sql Transition

namespace Ingestion

/-- What is told apart by a broker that retains messages. -/
def Delivery.content (d : Delivery) : String × List UInt8 :=
  (d.message.topic, d.message.payload.getD [])

end Ingestion

namespace Collector

open Ingestion (Delivery)

variable {V F κ : Type} {c : Numbers F}

/-- `retained` are topics with what the broker keeps for those who subscribe to them, and
`downstream` is under way from the broker to the client. All messages ever sent to the client, and
those that were under way when a connection was lost, are recorded. -/
structure State (F κ : Type) where
  sharing : Sharing.State
  ingestion : Ingestion.State F κ
  retained : List (String × List UInt8)
  downstream : List Delivery
  routed : List Delivery
  dropped : List Delivery

/-- `resent` are retained messages that the broker sends with the step, and `retain` is the flag of
the publication. -/
inductive Event (κ : Type) (c : Numbers F)
  | network (e : Sharing.Event) (resent : List Delivery)
  | publish (d : Delivery) (retain : Bool)
  | deliver
  | ingest (e : Ingestion.Event κ c)

/-- Whether the network thread of the client takes the step. -/
def onThread : Sharing.Event → Bool
  | .serve _ => false
  | _ => true

/-- Whether a message is taken in by the step. -/
def receives : Ingestion.Event κ c → Bool
  | .receive _ => true
  | _ => false

/-- The broker keeps the last message of a topic, and none if that is empty. -/
def keep (retained : List (String × List UInt8)) (d : Delivery) : List (String × List UInt8) :=
  retained.filter (fun m => m.1 ≠ d.message.topic)
    ++ if d.content.2 = [] then [] else [d.content]

namespace State

variable (routes : List String → String → Bool) (s : State F κ)

/-- What a publication sends to the client. -/
def passes (d : Delivery) : List Delivery :=
  if s.sharing.connected && routes s.sharing.held d.message.topic then [d] else []

/-- The broker's part in a publication. -/
def route (d : Delivery) (retain : Bool) : State F κ :=
  { s with retained := if retain then keep s.retained d else s.retained,
           downstream := s.downstream ++ s.passes routes d,
           routed := s.routed ++ s.passes routes d }

/-- What is retained for the SUBSCRIBE that is granted. -/
def waiting : Sharing.Event → List (String × List UInt8)
  | .serve qos =>
    match s.sharing.sent with
    | ⟨_, .subscribe _ topic⟩ :: _ =>
      if qos.refused then [] else s.retained.filter fun m => routes [topic] m.1
    | _ => []
  | _ => []

/-- The broker sends what is retained for the step, or some of it, in any order. -/
def Resends (e : Sharing.Event) (resent : List Delivery) : Prop :=
  (resent.map Delivery.content).Subperm (s.waiting routes e)
    ∧ ∀ d ∈ resent, d.message.retain = true

end State

variable [Zero F]

/-- `routes held topic` is whether a client that has subscribed to `held` is sent what is published
on `topic`, and `slots` are the observers as the message signal has them. -/
inductive Step (p : Platform V F) (routes : List String → String → Bool)
    (slots : List SensorDataObserver) : State F κ → Event κ c → State F κ → Prop
  | network {s : State F κ} {e : Sharing.Event} {resent : List Delivery} {t : Sharing.State} :
      Application.served e = true → (onThread e = true → s.ingestion.emitting = none) →
      Sharing.Step Application.durable s.sharing e t → s.Resends routes e resent →
      Step p routes slots s (.network e resent)
        { s with sharing := t, downstream := if t.connected then s.downstream ++ resent else [],
                 routed := s.routed ++ resent,
                 dropped := s.dropped ++ if t.connected then [] else s.downstream ++ resent }
  | publish {s : State F κ} {d : Delivery} {retain : Bool} :
      Step p routes slots s (.publish d retain) (s.route routes d retain)
  | deliver {s : State F κ} {d : Delivery} {rest : List Delivery} {t : Ingestion.State F κ} :
      s.sharing.connected = true → s.downstream = d :: rest →
      Ingestion.Step p slots s.ingestion (.receive d : Ingestion.Event κ c) t →
      Step p routes slots s .deliver { s with ingestion := t, downstream := rest }
  | ingest {s : State F κ} {e : Ingestion.Event κ c} {t : Ingestion.State F κ} :
      receives e = false → Ingestion.Step p slots s.ingestion e t →
      Step p routes slots s (.ingest e) { s with ingestion := t }

/-- The observers, in the order of their set, have been set up and have subscribed. -/
def system (c : Numbers F) (p : Platform V F) (routes : List String → String → Bool)
    (observers : List SensorDataObserver) (w₀ : World F κ → Prop) :
    System (State F κ) (Event κ c) where
  init s := ∃ call w retained, w₀ w ∧ s =
    { sharing :=
        Application.start (StorageSubsystem.subscribeObservers call observers).observers,
      ingestion := Ingestion.start w, retained := retained, downstream := [], routed := [],
      dropped := [] }
  step := Step p routes (CompositeDataObserver.setUp observers)

end Collector

end SensorityCollector
