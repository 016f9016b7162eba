import SensorityCollector.Proofs.StorageFifo

/-!
# Calling the storage from a job it runs

The worker holds `_mutex` from the lock in front of `_cv.wait` to the end of the drain, so through
every `job->run`. A callback that calls `put` or `get` comes to `process()` on the worker's own
thread, at the lock of a mutex that thread owns, and stays there; with it every producer and
`tearDown()` stop.
-/

namespace SensorityCollector

open Transition

namespace DataStorage

variable {J T W O : Type*} {c : Config J W O} {s s' : State J T W} {k : ℕ}

/-- Worker `k` is about to lock `_mutex` and owns it. -/
def SelfLock (s : State J T W) (k : ℕ) : Prop :=
  ∃ job, s.workers k = .running (some (.lock job)) ∧ s.mutex = some (.worker k)

def Event.reenters : Event J T O → Bool
  | .reenter _ _ => true
  | _ => false

/-- Some worker is inside a call of `process()` that its job has made. -/
def InCall (s : State J T W) : Prop := ∃ k p, s.workers k = .running (some p)

theorem Inv.selfLock (h : Inv s) {p : Process J} (hk : s.workers k = .running (some p)) :
    SelfLock s k := by
  obtain ⟨job, rfl⟩ := h.nested k p hk
  exact ⟨job, hk, (h.lock (.worker k)).1 (by simp [State.holds, hk, Loop.holds])⟩

variable [DecidableEq T]

theorem inCall_of_step {e : Event J T O} (he : e.reenters = false) (h : Inv s)
    (hs : Step c s e s') (hn : InCall s') : InCall s := by
  obtain ⟨j, p, hj⟩ := hn
  have hset : ∀ {u : State J T W} {i : ℕ} {w : Loop J},
      (u.setWorker i w).workers j = .running (some p) → w ≠ .running (some p) →
        u.workers j = .running (some p) := by
    intro u i w hu hw
    by_cases hji : j = i
    · simp [State.setWorker, hji] at hu
      exact absurd hu hw
    · simpa [State.setWorker, hji] using hu
  have hnot : ∀ {u v : State J T W}, NotifyOne u v → v.workers j = .running (some p) →
      u.workers j = .running (some p) := by
    rintro u _ (hk | _) hv
    · exact hset hv (by simp)
    · exact hv
  cases hs with
  | process _ hp =>
    cases hp with
    | notify hn => exact ⟨j, p, hnot hn hj⟩
    | _ => exact ⟨j, p, hj⟩
  | work hw =>
    cases hw with
    | head _ => exact ⟨j, p, hset hj (by split <;> simp)⟩
    | _ => exact ⟨j, p, hset hj (by simp)⟩
  | own ho =>
    cases ho with
    | spawn _ => exact ⟨j, p, hset hj (by simp)⟩
    | notify _ hn => exact ⟨j, p, hnot hn hj⟩
    | _ => exact ⟨j, p, hj⟩
  | nested hk hp => exact absurd hp (h.not_nested hk)
  | returned hr => cases hr <;> exact ⟨j, p, hj⟩
  | reenter _ => simp [Event.reenters] at he
  | wake _ => exact ⟨j, p, hset hj (by simp)⟩
  | run _ _ _ => exact ⟨j, p, hset hj (by simp)⟩
  | caught _ _ _ => exact ⟨j, p, hset hj (by simp)⟩
  | _ => exact ⟨j, p, hj⟩

theorem call_stays {e : Event J T O} {p : Process J} (h : Inv s)
    (hk : s.workers k = .running (some p)) (hs : Step c s e s') :
    s'.workers k = .running (some p) := by
  have hset : ∀ {u : State J T W} {i : ℕ} {w : Loop J}, u.workers = s.workers →
      s.workers i ≠ .running (some p) → (u.setWorker i w).workers k = .running (some p) := by
    intro u i w hu hi
    have hik : k ≠ i := fun he => hi (he ▸ hk)
    simpa [State.setWorker, hik, hu] using hk
  have hnot : ∀ {v : State J T W}, NotifyOne s v → v.workers k = .running (some p) := by
    rintro _ (hw | _)
    · exact hset rfl (by simp [hw])
    · exact hk
  cases hs with
  | process _ hp =>
    cases hp with
    | notify hn =>
      have := hnot hn
      exact this
    | _ => exact hk
  | work hw => cases hw <;> exact hset rfl (by simp [*])
  | own ho =>
    cases ho with
    | spawn _ => exact hset rfl (by simp [h.unborn s.spawned le_rfl])
    | notify _ hn =>
      have := hnot hn
      exact this
    | _ => exact hk
  | nested hj hp => exact absurd hp (h.not_nested hj)
  | returned hr => cases hr <;> exact hk
  | wake hw => exact hset rfl (by simp [hw])
  | run hw _ _ => exact hset rfl (by simp [hw])
  | caught hw _ _ => exact hset rfl (by simp [hw])
  | reenter hw => exact hset rfl (by simp [hw])
  | _ => exact hk

/-- While a worker is at the lock of its own mutex, no job is accepted, none finishes, and
`tearDown()` does not return. -/
theorem SelfLock.step {e : Event J T O} (h : Inv s) (hk : SelfLock s k) (hs : Step c s e s') :
    SelfLock s' k ∧ s'.workers k = s.workers k ∧ s'.accepted = s.accepted
      ∧ s'.finished = s.finished ∧ e ≠ .returned := by
  obtain ⟨job, hw, -⟩ := hk
  have hw' := call_stays h hw hs
  have hphase : (s.workers k).phase = .running := by simp [hw, Loop.phase]
  have hphase' : (s'.workers k).phase = .running := by simp [hw', Loop.phase]
  refine ⟨(h.step hs).selfLock hw', hw'.trans hw.symm, ?_, ?_, ?_⟩
  · cases step_effect h hs with
    | accept _ hb _ _ _ _ _ => simp [hb k] at hphase
    | quiet _ _ ha _ _ => exact ha
    | take _ _ _ _ _ _ _ ha _ _ => exact ha
    | run _ _ _ _ _ _ _ ha _ _ => exact ha
    | pop _ _ _ _ ha _ _ => exact ha
  · cases step_effect h hs with
    | run j _ _ hj hj' _ _ _ _ _ =>
      have hjk := h.alive_unique (Loop.alive_of_phase (w := s.workers j) (by simp [hj]))
        (Loop.alive_of_phase (w := s.workers k) (by simp [hphase]))
      simp [hjk, hphase'] at hj'
    | quiet _ _ _ _ hf => exact hf
    | accept _ _ _ _ _ _ hf => exact hf
    | take _ _ _ _ _ _ _ _ _ hf => exact hf
    | pop _ _ _ _ _ _ hf => exact hf
  · rintro rfl
    cases hs with
    | returned hr =>
      have := h.dead_of_returned hr k
      simp [hw, Loop.alive] at this

variable {w₀ : W → Prop}

/-- Once a job has called `process()`, the call never returns, and the storage accepts and runs
nothing any more. -/
theorem SelfLock.run {es : List (Event J T O)} {u : State J T W}
    (hs : (system (T := T) c w₀).Reachable s) (hk : SelfLock s k)
    (hr : (system c w₀).Run (fun _ _ => True) s es u) :
    SelfLock u k ∧ u.workers k = s.workers k ∧ u.accepted = s.accepted
      ∧ u.finished = s.finished := by
  induction hr with
  | nil => exact ⟨hk, rfl, rfl, rfl⟩
  | snoc hr' _ hst ih =>
    obtain ⟨hk', hw, ha, hf⟩ := ih
    obtain ⟨hk'', hw', ha', hf', -⟩ := hk'.step (inv_reachable (hr'.reachableBy hs)) hst
    exact ⟨hk'', hw'.trans hw, ha'.trans ha, hf'.trans hf⟩

/-- No worker is about to lock a mutex it owns, and every call of `process()` that a job has made
can return and have its job run after all those accepted before. -/
def Reentrant (c : Config J W O) (w₀ : W → Prop) (s : State J T W) : Prop :=
  (∀ k, ¬ SelfLock s k) ∧ ∀ k job, s.workers k = .running (some (.lock job)) →
    ∃ es u es' v between, (system c w₀).Run (fun _ _ => True) s es u
      ∧ u.workers k = .running none ∧ (system c w₀).Run (fun _ _ => True) u es' v
      ∧ s.accepted ++ between ++ [job] <+: v.finished

theorem run_not_inCall {es : List (Event J T O)} {t : State J T W}
    (hs : (system (T := T) c w₀).init s) (hr : (system c w₀).Run (fun _ _ => True) s es t)
    (he : ∀ e ∈ es, e.reenters = false) : ¬ InCall t := by
  induction hr with
  | nil =>
    obtain ⟨w, -, rfl⟩ := hs
    rintro ⟨k, p, hk⟩
    simp [fresh] at hk
  | snoc hr' _ hst ih =>
    intro hn
    refine ih (fun e h => he e (List.mem_append_left _ h)) ?_
    exact inCall_of_step (he _ (by simp)) (inv_reachable (hr'.reachableBy (.init hs))) hst hn

/-- A run is free of self-locking, and its jobs' calls return, exactly if no job calls the storage
that runs it. -/
theorem reentrant_iff {es : List (Event J T O)} {t : State J T W}
    (hs : (system (T := T) c w₀).init s) (hr : (system c w₀).Run (fun _ _ => True) s es t) :
    (∀ es₁ es₂ u, es = es₁ ++ es₂ → (system c w₀).Run (fun _ _ => True) s es₁ u →
        (system c w₀).Run (fun _ _ => True) u es₂ t → Reentrant c w₀ u)
      ↔ ∀ e ∈ es, e.reenters = false := by
  constructor
  · intro h e he
    by_contra hre
    obtain ⟨es₁, es₂, u, v, rfl, h1, -, hst, h2⟩ := hr.split he
    have hv := h (es₁ ++ [e]) es₂ v rfl (.snoc h1 trivial hst) h2
    have hst' := hst
    cases hst with
    | @reenter k job hk =>
      have hi := (inv_reachable (h1.reachableBy (.init hs))).step hst'
      exact hv.1 k (hi.selfLock (p := .lock job) (by simp [State.setWorker]))
    | _ => simp [Event.reenters] at hre
  · rintro he es₁ es₂ u rfl h1 -
    have hn := run_not_inCall hs h1 fun e h => he e (List.mem_append_left _ h)
    refine ⟨fun k hk => ?_, fun k job hk => absurd ⟨k, _, hk⟩ hn⟩
    obtain ⟨job, hk, -⟩ := hk
    exact hn ⟨k, _, hk⟩

/-- The job `0` has a callback that hands in a job `2`. -/
theorem plain_reenter : ∃ s t : State ℕ Unit Unit, (system plain fun _ => True).Reachable s
    ∧ Step plain s (.reenter 0 2 : Event ℕ Unit Unit) t ∧ SelfLock t 0
      ∧ t.workers 0 = .running (some (.lock 2)) ∧ t.accepted = [0, 1] := by
  obtain ⟨s, hs, hw, ha, -⟩ := plain_running
  have hst : Step plain s (.reenter 0 2 : Event ℕ Unit Unit)
      (s.setWorker 0 (.running (some (.lock 2)))) := .reenter hw
  have hw' : (s.setWorker 0 (.running (some (.lock 2)))).workers 0 = .running (some (.lock 2)) := by
    simp [State.setWorker]
  exact ⟨s, _, hs, hst, ((inv_reachable hs).step hst).selfLock hw', hw', ha⟩

/-- The callback never comes back from `process()`, and its job is never accepted. -/
theorem callback_blocks : ∃ s : State ℕ Unit Unit, (system plain fun _ => True).Reachable s
    ∧ SelfLock s 0 ∧ ∀ es u, (system plain fun _ => True).Run (fun _ _ => True) s es u →
      u.workers 0 = .running (some (.lock 2)) ∧ u.accepted = [0, 1] := by
  obtain ⟨s, t, hs, hst, hk, hw, ha⟩ := plain_reenter
  refine ⟨t, hs.next hst, hk, fun es u hr => ?_⟩
  obtain ⟨-, hw', ha', -⟩ := hk.run (hs.next hst) hr
  exact ⟨hw'.trans hw, ha'.trans ha⟩

theorem reentrant_iff_plain : ∃ (es : List (Event ℕ Unit Unit)) (t : State ℕ Unit Unit),
    (system plain fun _ => True).Run (fun _ _ => True) (fresh ()) (es ++ [.reenter 0 2]) t
      ∧ ¬ ∀ es₁ es₂ u, es ++ [.reenter 0 2] = es₁ ++ es₂ →
        (system plain fun _ => True).Run (fun _ _ => True) (fresh ()) es₁ u →
          (system plain fun _ => True).Run (fun _ _ => True) u es₂ t →
            Reentrant plain (fun _ => True) u := by
  obtain ⟨s, t, hs, hst, -⟩ := plain_reenter
  obtain ⟨_, es, ⟨_, hi, rfl⟩, hr⟩ := hs.exists_run
  refine ⟨es, t, .snoc hr trivial hst, fun h => ?_⟩
  have := (reentrant_iff ⟨(), hi, rfl⟩ (.snoc hr trivial hst)).1 h (.reenter 0 2) (by simp)
  simp [Event.reenters] at this

end DataStorage

end SensorityCollector
