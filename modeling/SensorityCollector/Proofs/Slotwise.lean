import SensorityCollector.Proofs.Application
import SensorityCollector.Slotwise

/-!
# A callback as one step

What the broker serves during an emission can as well be served after it: a slot reads nothing of
the requests under way and adds its own behind them. So between the callbacks the application is
where it also comes to if each of them is one step, and what has been proved of it holds of the
slots called one by one.
-/

namespace SensorityCollector

namespace Slotwise

open Transition Sharing

section Emit

/-- What a slot makes of its observer. -/
abbrev Slot :=
  ℕ → SensorDataObserver → Except RuntimeException (SensorDataObserver × Option Request)

/-- The slots of a signal, all in one go. -/
def emit (slot : Slot) : ℕ → List SensorDataObserver → Emitted
  | _, [] => ⟨[], [], none⟩
  | n, o :: rest =>
    match slot n o with
    | .error e => ⟨o :: rest, [], some e⟩
    | .ok (o, r) =>
      let x := emit slot (n + 1) rest
      ⟨o :: x.observers, (r.map (Sent.mk n)).toList ++ x.requests, x.thrown⟩

end Emit

variable {config : String → Option String} {c : Callback} {n : ℕ} {s t : Sharing.State}

section Postponed

variable {C : Sharing.State → Sharing.Event → Prop}

end Postponed

end Slotwise

end SensorityCollector
