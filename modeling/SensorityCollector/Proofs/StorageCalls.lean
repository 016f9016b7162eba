import SensorityCollector.Proofs.StorageFifo

/-!
# In which order a thread's jobs come into the queue

A thread is in one call of `process()` at a time, so what it has called it with is what has been
accepted of it and the job on the way, in the order of its calls. Jobs of other threads come in
between.
-/

namespace SensorityCollector

open Transition

namespace DataStorage

variable {J T W O : Type*}

/-- The job that `process()` has been called with and has not yet put into the queue. -/
def inFlight (s : State J T W) (t : T) : List J :=
  match s.producers t with
  | some (.lock job) | some (.emplace job) => [job]
  | some .unlock | some .notify | none => []

variable [DecidableEq T] {c : Config J W O} {s s' : State J T W}

/-- The job that thread `t` calls `process()` with. -/
def Event.calledBy (t : T) : Event J T O → Option J
  | .call u job => if u = t then some job else none
  | _ => none

/-- What a step does to the jobs accepted and the one that `t` has on the way: `others` is what
another thread has put into the queue. -/
theorem inFlight_step {e : Event J T O} (hi : Inv s) (hs : Step c s e s') (t : T) :
    ∃ others, s'.accepted ++ inFlight s' t
        = s.accepted ++ others ++ inFlight s t ++ (e.calledBy t).toList
      ∧ ((∀ u, u = t) → others = [])
      ∧ (e.calledBy t = none → s.producers t = none → s'.producers t = none) := by
  have hquiet : s'.accepted = s.accepted → s'.producers t = s.producers t → e.calledBy t = none →
      ∃ others, s'.accepted ++ inFlight s' t
          = s.accepted ++ others ++ inFlight s t ++ (e.calledBy t).toList
        ∧ ((∀ u, u = t) → others = [])
        ∧ (e.calledBy t = none → s.producers t = none → s'.producers t = none) := by
    intro ha hp he
    exact ⟨[], by simp [inFlight, ha, hp, he], fun _ => rfl, fun _ h => hp.trans h⟩
  cases hs with
  | @call u job hu =>
    by_cases ht : u = t
    · subst ht
      exact ⟨[], by simp [inFlight, State.setProducer, Event.calledBy, hu], fun _ => rfl,
        by simp [Event.calledBy]⟩
    · exact hquiet rfl (by simp [State.setProducer, Ne.symm ht]) (by simp [Event.calledBy, ht])
  | @process _ u _ _ hu hp =>
    by_cases ht : u = t
    · subst ht
      refine ⟨[], ?_, fun _ => rfl, by simp [hu]⟩
      cases hp with
      | notify h => simp [inFlight, State.setProducer, hu, (notified h).accepted, Event.calledBy]
      | _ => simp [inFlight, State.setProducer, hu, Event.calledBy]
    · cases hp with
      | @emplace job =>
        refine ⟨[job], ?_, fun hall => absurd (hall u) ht, fun _ h => ?_⟩
        · simp [inFlight, State.setProducer, Function.update_of_ne (Ne.symm ht), Event.calledBy]
        · simpa [State.setProducer, Function.update_of_ne (Ne.symm ht)] using h
      | notify h =>
        exact hquiet (notified h).accepted (by simp [State.setProducer, Ne.symm ht,
          (notified h).producers]) rfl
      | _ => exact hquiet rfl (by simp [State.setProducer, Ne.symm ht]) rfl
  | work hw => cases hw <;> exact hquiet rfl rfl rfl
  | nested hk hp => exact absurd hp (hi.not_nested hk)
  | own ho =>
    cases ho with
    | notify _ h => exact hquiet (notified h).accepted (by rw [(notified h).producers]) rfl
    | _ => exact hquiet rfl rfl rfl
  | returned hr => cases hr <;> exact hquiet rfl rfl rfl
  | _ => exact hquiet rfl rfl rfl

/-- In every run, what a thread has called `process()` with is among what has been accepted, in the
order of its calls, but for the job on the way. -/
theorem calls_accepted {w₀ : W → Prop} {es : List (Event J T O)}
    (h : (system (T := T) c w₀).Reachable s)
    (hr : (system c w₀).Run (fun _ _ => True) s es s') (t : T) :
    (es.filterMap (Event.calledBy t)).Sublist (s'.accepted ++ inFlight s' t) := by
  induction hr with
  | nil => simp
  | @snoc u v es e hr' _ hst ih =>
    obtain ⟨others, heq, -⟩ := inFlight_step (inv_reachable (hr'.reachableBy h)) hst t
    rw [List.filterMap_append, heq]
    have hmore : u.accepted.Sublist (u.accepted ++ others) := List.sublist_append_left ..
    have htail : [e].filterMap (Event.calledBy t) = (e.calledBy t).toList := by
      cases he : e.calledBy t <;> simp [he]
    rw [htail]
    exact (ih.trans (hmore.append_right _)).append_right _

end DataStorage

end SensorityCollector
