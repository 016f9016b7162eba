import SensorityCollector.Proofs.StorageReturns

/-!
# The worker does not sleep through work or a stop

A notification is sent after the mutex is given back, and is lost if nobody waits for it. What a
sleeping worker could miss was pushed, or `_active` cleared, under the mutex before it fell asleep
or by a thread that is still on its way through `notify_one`.
-/

namespace SensorityCollector

open Transition

namespace DataStorage

variable {J T W O : Type*} {c : Config J W O} {s : State J T W}

/-- The thread has unlocked the mutex and is about to call `notify_one`. -/
def State.atNotify (s : State J T W) : Thread T → Prop
  | .worker k => s.workers k = .running (some .notify)
  | .owner => s.owner = .notify
  | .producer t => s.producers t = some .notify

/-- With the mutex free, whoever has yet to notify has nothing else to do first. -/
theorem Inv.atNotify (h : Inv s) (hm : s.mutex = none) (hn : s.notifying) :
    ∃ th, s.atNotify th := by
  have hfree : ∀ th, s.holds th = false := by
    intro th
    rcases hth : s.holds th
    · rfl
    · have hown := (h.lock th).1 hth
      rw [hm] at hown
      cases hown
  rcases hn with ho | ho | ⟨t, ht | ht⟩
  · have := hfree .owner
    simp [State.holds, ho, Owner.holds] at this
  · exact ⟨.owner, ho⟩
  · have := hfree (.producer t)
    simp [State.holds, ht, Process.holds] at this
  · exact ⟨.producer t, ht⟩

/-- While the owner waits in `join()`, only producers can be about to notify. -/
theorem notifying_join (ho : s.owner = .join) (hn : s.notifying) :
    ∃ t, s.producers t = some .unlock ∨ s.producers t = some .notify := by
  rcases hn with hn | hn | hn
  · rw [ho] at hn
    cases hn
  · rw [ho] at hn
    cases hn
  · exact hn

variable [DecidableEq T] {w₀ : W → Prop}

/-- A worker that sleeps, with the mutex free and nobody between `unlock` and `notify_one`, has
nothing to run and is not being stopped. If the owner waits in `join()` for a worker that sleeps, a
producer is about to wake it, and the owner can come to its return. -/
theorem worker_attended
    (h : (system (T := T) c w₀).ReachableBy (fun _ e => e.reenters = false) s) :
    (∀ k, s.workers k = .waiting → s.mutex = none → (∀ th, ¬ s.atNotify th) →
        s.active = true ∧ s.jobs = [])
      ∧ (∀ k, s.owner = .join → s.thread = some k → s.workers k = .waiting →
        (∃ t, s.producers t = some .unlock ∨ s.producers t = some .notify)
          ∧ CanReturn c w₀ s) := by
  have hr := h.reachable
  have hi := inv_reachable hr
  have ha := attended_reachable hr
  refine ⟨fun k hk hm hn => ?_, fun k ho _ hk => ?_⟩
  · rcases ha.waiting k hk with hq | hw
    · exact hq
    · obtain ⟨th, hth⟩ := hi.atNotify hm hw
      exact absurd hth (hn th)
  · have hstop := hi.stopping (by rw [ho]; rfl)
    have hp : Plain c w₀ s := by
      refine ⟨hr, h.invariant (P := fun s => ¬ InCall s) ?_ fun u e v hu hin he hs hv => ?_⟩
      · rintro _ ⟨w, -, rfl⟩ ⟨j, p, hj⟩
        simp [fresh] at hj
      · exact hin (inCall_of_step he (inv_reachable hu.reachable) hs hv)
    refine ⟨?_, hp.joins ho⟩
    rcases ha.waiting k hk with ⟨hact, -⟩ | hw
    · rw [hstop] at hact
      cases hact
    · exact notifying_join ho hw

theorem worker_attended_plain : ∃ s : State ℕ Unit Unit, s.workers 0 = .waiting ∧ s.mutex = none
    ∧ s.active = true ∧ s.jobs = [] := by
  have h₀ : (system (T := Unit) plain fun _ => True).ReachableBy (fun _ e => e.reenters = false)
      (fresh ()) := .init ⟨(), trivial, rfl⟩
  have h₁ := (((h₀.step rfl (.setUp rfl)).step rfl (.own (.accept rfl rfl))).step rfl
    (.own (.activate rfl rfl))).step rfl (.own (.spawn rfl))
  have hs := ((h₁.step rfl (.work (k := 0) (.head rfl))).step rfl
    (.work (k := 0) (.lock rfl rfl))).step rfl (.work (k := 0) (.sleep rfl rfl rfl))
  refine ⟨_, rfl, rfl, (worker_attended hs).1 0 rfl rfl ?_⟩
  rintro (k | _ | t) hth
  · by_cases hk : k = 0 <;>
      simp [State.atNotify, State.setWorker, fresh, hk] at hth
  · cases hth
  · cases hth

end DataStorage

end SensorityCollector
