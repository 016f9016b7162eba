import SensorityCollector.Proofs.StorageFifo

/-!
# What `tearDown()` leaves behind

`loop()` tests `_active` before it drains, so a stop that takes the mutex while jobs wait leaves
them waiting: the jobs run are those the worker had taken up by then, the others stay in the
queue in their order for the next `setUp()`.
-/

namespace SensorityCollector

open Transition

namespace DataStorage

variable {J T W O : Type*} {c : Config J W O} {s s' : State J T W}

/-- The owner has the mutex, or has cleared `_active`: no worker takes up a job. -/
def Owner.closing : Owner → Bool
  | .clear | .unlock | .notify | .join => true
  | _ => false

theorem Inv.not_draining (h : Inv s) (ho : s.owner.closing = true) (k : ℕ) :
    (s.workers k).draining = false := by
  rcases hk : (s.workers k).draining
  · rfl
  by_cases hc : s.owner = .clear
  · have hm := (h.lock .owner).1 (by simp [State.holds, hc, Owner.holds])
    have hw := (h.lock (.worker k)).1 (Loop.holds_of_draining hk)
    simp [hm] at hw
  · have hst : s.owner.stopping = true := by
      cases hs : s.owner <;> simp_all [Owner.closing, Owner.stopping]
    have ha := h.draining k hk
    simp [h.stopping hst] at ha

theorem Loop.draining_of_phase {w : Loop J} (h : w.phase ≠ .other) : w.draining = true := by
  cases w <;> simp_all [Loop.phase, Loop.draining]

theorem Inv.closing_phase (h : Inv s) (ho : s.owner.closing = true) (k : ℕ) :
    (s.workers k).phase = .other := by
  by_contra hp
  simpa [h.not_draining ho k] using Loop.draining_of_phase hp

variable [DecidableEq T]

theorem closing_keeps {e : Event J T O} (h : Inv s) (ho : s.owner.closing = true)
    (hs : Step c s e s') (ho' : s'.owner.closing = true) : s'.finished = s.finished := by
  have hb := h.closing_phase ho
  cases step_effect h hs with
  | take k _ _ _ hk _ _ _ _ _ => simp [(h.step hs).closing_phase ho' k] at hk
  | run k _ _ hk _ _ _ _ _ _ => simp [hb k] at hk
  | quiet _ _ _ _ hf => exact hf
  | accept _ _ _ _ _ _ hf => exact hf
  | pop _ _ _ _ _ _ hf => exact hf

/-- How `terminate()` proceeds until it returns. -/
theorem owner_step {e : Event J T O} (hs : Step c s e s') (he : e ≠ .returned) :
    (s.owner = .terminate → s'.owner = .terminate ∧ s'.active = s.active ∨ s'.owner = .lock)
      ∧ (s.owner = .lock → s'.owner = .lock ∨ s'.owner = .clear)
      ∧ (s.owner.closing = true → s'.owner.closing = true) := by
  have hn : ∀ {u : State J T W}, NotifyOne s u → u.owner = s.owner ∧ u.active = s.active := by
    rintro u (_ | _) <;> exact ⟨rfl, rfl⟩
  cases hs with
  | process _ hp =>
    cases hp with
    | notify h =>
      obtain ⟨ho, ha⟩ := hn h
      simp_all [State.setProducer]
    | _ => simp_all [State.setProducer]
  | nested _ hp =>
    cases hp with
    | notify h =>
      obtain ⟨ho, ha⟩ := hn h
      simp_all [State.setWorker]
    | _ => simp_all [State.setWorker]
  | work hw => cases hw <;> simp_all [State.setWorker]
  | own ho => cases ho <;> simp_all [Owner.closing]
  | returned _ => exact absurd rfl he
  | _ => simp_all [State.setWorker, State.setProducer, Owner.closing]

def Pending (_ : State J T W) (e : Event J T O) : Prop := e ≠ .returned

variable {w₀ : W → Prop} {s₁ u t : State J T W} {es : List (Event J T O)}

/-- A call of `tearDown()` under way has not found out whether the storage is active, waits for
the mutex, or has taken it in some `m` and has had nothing run since. -/
theorem tearDown_path (hs : (system (T := T) c w₀).Reachable s) (hc : Step c s .tearDown s₁)
    (hr : (system c w₀).Run Pending s₁ es u) :
    u.owner = .terminate ∧ u.active = s.active ∨ u.owner = .lock
      ∨ u.owner.closing = true ∧ ∃ m es₁ es₂, (system c w₀).Run Pending s₁ es₁ m
        ∧ (system c w₀).Run Pending m es₂ u ∧ m.owner = .clear ∧ u.finished = m.finished := by
  induction hr with
  | nil =>
    cases hc with
    | tearDown _ => exact .inl ⟨rfl, rfl⟩
  | @snoc v u es e hr' he hst ih =>
    have hv := (hr'.mono fun _ _ _ => trivial).reachableBy (hs.next hc)
    obtain ⟨h1, h2, h3⟩ := owner_step hst he
    rcases ih with ⟨ho, ha⟩ | ho | ⟨ho, m, es₁, es₂, hm₁, hm₂, hmo, hf⟩
    · rcases h1 ho with ⟨ho', ha'⟩ | ho'
      · exact .inl ⟨ho', ha'.trans ha⟩
      · exact .inr (.inl ho')
    · rcases h2 ho with ho' | ho'
      · exact .inr (.inl ho')
      · exact .inr (.inr ⟨by simp [ho', Owner.closing], u, _, [], .snoc hr' he hst, .nil u, ho',
          rfl⟩)
    · exact .inr (.inr ⟨h3 ho, m, es₁, _, hm₁, .snoc hm₂ he hst, hmo,
        (closing_keeps (inv_reachable hv) ho hst (h3 ho)).trans hf⟩)

/-- When `tearDown()` returns, every job accepted before it was called has been run, once and in
its place, or is still in the queue, in its place behind all that were run. What has been run is
what the worker had taken up in the state `m` in which `tearDown()` took the mutex. -/
theorem tearDown_keeps_queue (hs : (system (T := T) c w₀).Reachable s)
    (hc : Step c s .tearDown s₁) (hr : (system c w₀).Run Pending s₁ es u)
    (ht : Step c u (.returned : Event J T O) t) :
    s.accepted <+: t.accepted ∧ t.accepted = t.finished ++ t.jobs
      ∧ (∀ k, (t.workers k).alive = false)
      ∧ (s.active = true → ∃ m es₁ es₂, (system c w₀).Run Pending s₁ es₁ m
          ∧ (system c w₀).Run Pending m es₂ u ∧ m.owner = .clear ∧ m.mutex = some .owner
          ∧ m.accepted = m.finished ++ m.jobs ∧ t.finished = m.finished) := by
  have hs₁ := hs.next hc
  have hu : (system c w₀).Reachable u := (hr.mono fun _ _ _ => trivial).reachableBy hs₁
  have hut := hu.next ht
  have hidle : ∀ {v : State J T W}, (system (T := T) c w₀).Reachable v →
      (∀ k, (v.workers k).phase = .other) → v.accepted = v.finished ++ v.jobs := by
    intro v hv hb
    obtain ⟨hw, hst⟩ := idle_front hv hb
    rw [accepted_eq hv, hw, hst]
  cases ht with
  | returned hret =>
    have hdead := (inv_reachable hu).dead_of_returned hret
    have hsame : t.finished = u.finished ∧ t.workers = u.workers ∧ t.accepted = u.accepted := by
      cases hret <;> exact ⟨rfl, rfl, rfl⟩
    obtain ⟨hf, hw, ha⟩ := hsame
    have hdead' : ∀ k, (t.workers k).alive = false := by rwa [hw]
    refine ⟨?_, hidle hut fun k => ?_, hdead', fun hact => ?_⟩
    · have hacc : s₁.accepted = s.accepted := by
        cases hc
        rfl
      rw [ha, ← hacc]
      exact run_accepted hs₁ hr
    · by_contra hp
      simpa [hdead' k] using Loop.alive_of_phase hp
    · rcases tearDown_path hs hc hr with ⟨ho, hua⟩ | ho | ⟨-, m, es₁, es₂, h1, h2, hm, hmf⟩
      · cases hret with
        | inactive _ h => simp [hua, hact] at h
        | unjoinable h _ => simp [ho] at h
        | joined h _ _ => simp [ho] at h
      · cases hret <;> simp_all
      · have hmr := (h1.mono fun _ _ _ => trivial).reachableBy hs₁
        have hmi := inv_reachable hmr
        exact ⟨m, es₁, es₂, h1, h2, hm,
          (hmi.lock .owner).1 (by simp [State.holds, hm, Owner.holds]),
          hidle hmr (hmi.closing_phase (by simp [hm, Owner.closing])), hf.trans hmf⟩

/-- A stop that falls between the end of a `process()` call and the worker's first step. -/
theorem plain_stop : ∃ s s₁ u t : State ℕ Unit Unit, ∃ es,
    (system plain fun _ => True).Reachable s ∧ s.producers = (fun _ => none) ∧ s.active = true
      ∧ s.accepted = [1] ∧ Step plain s .tearDown s₁
      ∧ (system plain fun _ => True).Run Pending s₁ es u ∧ Step plain u .returned t
      ∧ t.finished = [] := by
  have hp := reachable_process plain_setUp rfl (t := ()) rfl plain_awake 1
  have hr := ((((System.Run.nil (S := system (T := Unit) plain fun _ => True) (C := Pending)
    { plainReady with jobs := [1], accepted := [1], owner := .terminate }).snoc (by nofun)
      (.own (.test rfl rfl))).snoc (by nofun) (.own (.lock rfl rfl))).snoc (by nofun)
        (.own (.clear rfl))).snoc (by nofun) (.own (.unlock rfl))
  have hr' := (hr.snoc (by nofun) (.own (.notify rfl (.lost plain_awake)))).snoc (by nofun)
    (.work (k := 0) (.head rfl))
  exact ⟨_, _, _, _, _, hp, rfl, rfl, rfl, .tearDown rfl, hr',
    .returned (.joined (k := 0) rfl rfl rfl), rfl⟩

/-- Not every job accepted before `tearDown()` has been run when it returns, even if all calls of
`process()` had returned by then. -/
theorem tearDown_drops : ¬ ∀ (s s₁ u t : State ℕ Unit Unit) (es : List (Event ℕ Unit Unit)),
    (system plain fun _ => True).Reachable s → s.active = true → s.producers = (fun _ => none) →
      Step plain s .tearDown s₁ → (system plain fun _ => True).Run Pending s₁ es u →
        Step plain u .returned t → s.accepted <+: t.finished := by
  intro h
  obtain ⟨s, s₁, u, t, es, hs, hp, hact, ha, hc, hr, ht, hf⟩ := plain_stop
  have := h s s₁ u t es hs hact hp hc hr ht
  simp [ha, hf] at this

theorem tearDown_keeps_plain : ∃ s t : State ℕ Unit Unit, s.accepted = [1] ∧ t.finished = []
    ∧ s.accepted <+: t.accepted ∧ t.accepted = t.finished ++ t.jobs := by
  obtain ⟨s, s₁, u, t, es, hs, -, -, ha, hc, hr, ht, hf⟩ := plain_stop
  obtain ⟨hp, hq, -⟩ := tearDown_keeps_queue hs hc hr ht
  exact ⟨s, t, ha, hf, hp, hq⟩

end DataStorage

end SensorityCollector
