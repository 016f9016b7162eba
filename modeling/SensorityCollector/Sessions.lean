import SensorityCollector.Collector
import SensorityCollector.Restart

/-!
# The collector, session after session

A session opens the database that the configuration names, and its observers come into the set in
an order of their own. It may end at any moment, whatever is then under way or still queued.
-/

namespace SensorityCollector

open Sql Transition

namespace Collector

/-- What has happened in a session, and where it has ended. -/
structure History (F κ : Type) (c : Numbers F) where
  events : List (Event κ c)
  last : State F κ

variable {V F κ : Type} [Zero F] {c : Numbers F}

inductive Life (p : Platform V F) (routes : List String → String → Bool)
    (config : String → Option String) (connectionString : String) (files : Files F) :
    History F κ c → Files F → Prop
  | mk {observers : List SensorDataObserver} {s t : State F κ} {es : List (Event κ c)} :
      observers.Perm (StorageSubsystem.createObserver config) →
      (system c p routes observers
        (· = StorageSubsystem.opened files connectionString)).init s →
      (system c p routes observers (· = StorageSubsystem.opened files connectionString)).Run
        (fun _ _ => True) s es t →
      Life p routes config connectionString files ⟨es, t⟩
        (t.ingestion.storage.world.session.close files connectionString)

/-- The sessions on the files that are there. -/
def lives (κ : Type) (c : Numbers F) (p : Platform V F) (routes : List String → String → Bool)
    (config : String → Option String) (connectionString : String) :
    System (Files F) (History F κ c) where
  init _ := True
  step := Life p routes config connectionString

end Collector

end SensorityCollector
