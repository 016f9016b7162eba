import SensorityCollector.Transition

/-!
# A queue and what has gone through it

The purpose of a job queue, with no thread in it: elements are accepted at one end and taken at
the other. What has been taken and what waits, in this order, is what has been accepted.
-/

open Transition

/-- What waits in the queue, and all that has been accepted and taken so far. -/
structure Fifo (α : Type*) where
  waiting : List α
  accepted : List α
  taken : List α

namespace Fifo

variable {α : Type*}

inductive Op (α : Type*)
  | accept (a : α)
  | take (a : α)

inductive Step : Fifo α → Op α → Fifo α → Prop
  | accept {q : Fifo α} {a : α} :
      Step q (.accept a) { q with waiting := q.waiting ++ [a], accepted := q.accepted ++ [a] }
  | take {q : Fifo α} {a : α} {rest : List α} : q.waiting = a :: rest →
      Step q (.take a) { q with waiting := rest, taken := q.taken ++ [a] }

def system (α : Type*) : System (Fifo α) (Op α) where
  init q := q = ⟨[], [], []⟩
  step := Step

theorem accepted_eq {q : Fifo α} (h : (system α).Reachable q) :
    q.accepted = q.taken ++ q.waiting := by
  induction h with
  | init hi =>
    cases hi
    rfl
  | step _ _ hs ih =>
    cases hs with
    | accept => simp [ih]
    | take hw => simp [ih, hw]

/-- The elements are taken in the order they were accepted in. -/
theorem taken_initial {q : Fifo α} (h : (system α).Reachable q) : q.taken <+: q.accepted :=
  ⟨q.waiting, (accepted_eq h).symm⟩

theorem taken_nodup {q : Fifo α} (h : (system α).Reachable q) (hn : q.accepted.Nodup) :
    q.taken.Nodup :=
  hn.sublist (taken_initial h).sublist

end Fifo
