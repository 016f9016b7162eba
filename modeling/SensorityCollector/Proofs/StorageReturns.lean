import SensorityCollector.Proofs.StorageReentry
import SensorityCollector.Proofs.StorageStop

/-!
# `tearDown()` comes back

A worker that sleeps has nothing to do, or somebody is on the way to wake it. So whoever holds the
mutex can give it back, and the worker that `tearDown()` waits for can end, without anybody being
woken for no reason.
-/

namespace SensorityCollector

open Transition

namespace DataStorage

variable {J T W O : Type*} {c : Config J W O} {s s' : State J T W}

/-- Somebody has unlocked the mutex and has not yet come through `notify_one`. -/
def State.notifying (s : State J T W) : Prop :=
  s.owner = .unlock ∨ s.owner = .notify ∨
    ∃ t, s.producers t = some .unlock ∨ s.producers t = some .notify

structure Attended (s : State J T W) : Prop where
  born : ∀ k, s.thread = some k → s.workers k ≠ .unborn
  waiting : ∀ k, s.workers k = .waiting → (s.active = true ∧ s.jobs = []) ∨ s.notifying

theorem attended_fresh (w : W) : Attended (fresh w : State J T W) :=
  ⟨by simp [fresh], by simp [fresh]⟩

theorem Attended.frame (h : Attended s) (ht : s'.thread = s.thread) (hw : s'.workers = s.workers)
    (ha : s.active = true → s'.active = true) (hj : s'.jobs = s.jobs)
    (hn : s.notifying → s'.notifying) : Attended s' := by
  refine ⟨fun k hk => ?_, fun k hk => ?_⟩
  · rw [hw]
    exact h.born k (ht ▸ hk)
  · rw [hw] at hk
    rcases h.waiting k hk with ⟨hact, hjobs⟩ | hnot
    · exact .inl ⟨ha hact, hj.trans hjobs⟩
    · exact .inr (hn hnot)

/-- When a worker moves, it is the only one there is. -/
theorem Attended.setWorker (h : Attended s) (hi : Inv s) {k : ℕ} {w : Loop J}
    (hk : (s.workers k).alive = true) (hw : w ≠ .unborn) (ht : s'.thread = s.thread)
    (hs : s'.workers = Function.update s.workers k w)
    (hwait : w = .waiting → s'.active = true ∧ s'.jobs = []) : Attended s' := by
  refine ⟨fun j hj => ?_, fun j hj => ?_⟩
  · by_cases hjk : j = k
    · simpa [hs, hjk] using hw
    · simpa [hs, hjk] using h.born j (ht ▸ hj)
  · by_cases hjk : j = k
    · exact .inl (hwait (by simpa [hs, hjk] using hj))
    · have hj' : s.workers j = .waiting := by simpa [hs, hjk] using hj
      exact absurd (hi.alive_unique (by simp [hj', Loop.alive]) hk) hjk

theorem notifyOne_awake (hi : Inv s) (hs : NotifyOne s s') (k : ℕ) : s'.workers k ≠ .waiting := by
  cases hs with
  | lost h => exact h k
  | @wakes j hj =>
    intro hk
    by_cases hkj : k = j
    · simp [State.setWorker, hkj] at hk
    · have hk' : s.workers k = .waiting := by simpa [State.setWorker, hkj] using hk
      exact hkj (hi.alive_unique (by simp [hk', Loop.alive]) (by simp [hj, Loop.alive]))

theorem Attended.notifyOne (h : Attended s) (hi : Inv s) {u : State J T W} (hs : NotifyOne s u)
    (ht : s'.thread = u.thread) (hw : s'.workers = u.workers) : Attended s' := by
  refine ⟨fun k hk => ?_, fun k hk => absurd (hw ▸ hk) (notifyOne_awake hi hs k)⟩
  rw [hw]
  cases hs with
  | lost _ => exact h.born k (ht ▸ hk)
  | @wakes j hj =>
    by_cases hkj : k = j
    · simp [State.setWorker, hkj]
    · simpa [State.setWorker, hkj] using h.born k (ht ▸ hk)

theorem Attended.loop (h : Attended s) (hi : Inv s) {k : ℕ} (hs : LoopStep k s s') :
    Attended s' := by
  cases hs with
  | head hk =>
    refine h.setWorker hi (by simp [hk, Loop.alive]) ?_ rfl rfl ?_ <;> split <;> simp
  | sleep hk ha hj =>
    exact h.setWorker hi (by simp [hk, Loop.alive]) (by simp) rfl rfl fun _ => ⟨ha, hj⟩
  | _ => exact h.setWorker hi (by simp_all [Loop.alive]) (by simp) rfl rfl (by simp)

theorem Attended.own (h : Attended s) (hi : Inv s) (hs : OwnerStep c s s') : Attended s' := by
  cases hs with
  | spawn ho =>
    refine ⟨fun k hk => ?_, fun k hk => ?_⟩
    · obtain rfl : s.spawned = k := by simpa [State.setWorker] using hk
      simp [State.setWorker]
    · by_cases hks : k = s.spawned
      · simp [State.setWorker, hks] at hk
      · have hk' : s.workers k = .waiting := by simpa [State.setWorker, hks] using hk
        rcases h.waiting k hk' with hq | hn
        · exact .inl hq
        · exact .inr (by simpa [State.notifying, State.setWorker, ho] using hn)
  | notify _ hn => exact h.notifyOne hi hn rfl rfl
  | activate ho _ => exact h.frame rfl rfl (fun _ => rfl) rfl (by simp [State.notifying, ho])
  | clear _ => exact ⟨h.born, fun _ _ => .inr (.inl rfl)⟩
  | unlock _ => exact ⟨h.born, fun _ _ => .inr (.inr (.inl rfl))⟩
  | _ => exact h.frame rfl rfl id rfl (by simp_all [State.notifying])

variable [DecidableEq T]

theorem notifying_setProducer {t : T} {p : Option (Process J)} (hu : s.producers t ≠ some .unlock)
    (hn : s.producers t ≠ some .notify) (h : s.notifying) : (s.setProducer t p).notifying := by
  rcases h with ho | ho | ⟨t', hp⟩
  · exact .inl ho
  · exact .inr (.inl ho)
  · have htt : t' ≠ t := by
      rintro rfl
      exact hp.elim hu hn
    exact .inr (.inr ⟨t', by simpa [State.setProducer, htt] using hp⟩)

theorem Attended.process (h : Attended s) (hi : Inv s) {t : T} {p : Process J}
    {p' : Option (Process J)} (ht : s.producers t = some p)
    (hs : ProcessStep (.producer t) s p s' p') : Attended (s'.setProducer t p') := by
  cases hs with
  | lock _ =>
    exact h.frame rfl rfl id rfl
      (notifying_setProducer (t := t) (by simp [ht]) (by simp [ht]))
  | emplace => exact ⟨h.born, fun _ _ => .inr (.inr (.inr ⟨t, .inl (by simp [State.setProducer])⟩))⟩
  | unlock => exact ⟨h.born, fun _ _ => .inr (.inr (.inr ⟨t, .inr (by simp [State.setProducer])⟩))⟩
  | notify hn => exact h.notifyOne hi hn rfl rfl

theorem Attended.step (h : Attended s) (hi : Inv s) {e : Event J T O} (hs : Step c s e s') :
    Attended s' := by
  cases hs with
  | @call t job ht =>
    exact h.frame rfl rfl id rfl
      (notifying_setProducer (t := t) (by simp [ht]) (by simp [ht]))
  | process ht hp => exact h.process hi ht hp
  | work hw => exact h.loop hi hw
  | nested hk hp => exact absurd hp (hi.not_nested hk)
  | own ho => exact h.own hi ho
  | spawnThrows ho => exact h.frame rfl rfl id rfl (by simp [State.notifying, ho])
  | setUp ho => exact h.frame rfl rfl id rfl (by simp [State.notifying, ho])
  | tearDown ho => exact h.frame rfl rfl id rfl (by simp [State.notifying, ho])
  | returned hr =>
    cases hr with
    | joined _ _ _ =>
      exact ⟨by simp, fun k hk => by simpa [State.notifying, *] using h.waiting k hk⟩
    | _ => exact h.frame rfl rfl id rfl (by simp [State.notifying, *])
  | _ => exact h.setWorker hi (by simp_all [Loop.alive]) (by simp) rfl rfl (by simp)

variable {w₀ : W → Prop}

/-- No worker sleeps while there is work or a stop that nobody is about to wake it for. -/
theorem attended_reachable (h : (system (T := T) c w₀).Reachable s) : Attended s := by
  refine h.invariant ?_ fun _ _ _ hr ha _ hs => ha.step (inv_reachable hr) hs
  rintro _ ⟨w, -, rfl⟩
  exact attended_fresh w

/-- A step that does not return from `tearDown()`, is no job's call of `process()` and wakes nobody
for no reason. -/
def Steady (_ : State J T W) (e : Event J T O) : Prop :=
  e ≠ .returned ∧ e.reenters = false ∧ ∀ k, e ≠ .wake k

/-- A state of a run in which no job has called `process()`. -/
structure Plain (c : Config J W O) (w₀ : W → Prop) (s : State J T W) : Prop where
  reachable : (system (T := T) c w₀).Reachable s
  outside : ¬ InCall s

theorem Plain.step (h : Plain c w₀ s) {e : Event J T O} (he : e.reenters = false)
    (hs : Step c s e s') : Plain c w₀ s' :=
  ⟨h.reachable.next hs, fun hn => h.outside (inCall_of_step he (inv_reachable h.reachable) hs hn)⟩

theorem Plain.run (h : Plain c w₀ s) {C : State J T W → Event J T O → Prop}
    (hC : ∀ u e, C u e → e.reenters = false) {es : List (Event J T O)}
    (hr : (system c w₀).Run C s es s') : Plain c w₀ s' :=
  hr.invariant (fun _ _ _ hp hc hs => hp.step (hC _ _ hc) hs) h

section releases

variable (c) (w₀)

/-- The producer that holds the mutex can give it back. -/
theorem producer_releases {t : T} (hi : Inv s) (hm : s.mutex = some (.producer t)) :
    ∃ (es : List (Event J T O)) (u : State J T W), (system c w₀).Run Steady s es u
      ∧ u.mutex = none ∧ u.workers = s.workers ∧ u.owner = s.owner ∧ u.active = s.active
      ∧ u.thread = s.thread := by
  have hp : ∀ (u : State J T W) (p : Option (Process J)), (u.setProducer t p).producers t = p := by
    simp [State.setProducer]
  have hproc : Steady s (.process t : Event J T O) := ⟨by simp, rfl, by simp⟩
  have hh := (hi.lock (.producer t)).2 hm
  rcases ht : s.producers t with _ | p
  · simp [State.holds, ht] at hh
  · cases p with
    | lock job => simp [State.holds, ht, Process.holds] at hh
    | notify => simp [State.holds, ht, Process.holds] at hh
    | unlock => exact ⟨_, _, .single hproc (.process ht .unlock), rfl, rfl, rfl, rfl, rfl⟩
    | emplace job =>
      have h1 : (system c w₀).Run Steady s [.process t] _ := .single hproc (.process ht .emplace)
      exact ⟨_, _, h1.snoc hproc (.process (hp _ _) .unlock), rfl, rfl, rfl, rfl, rfl⟩

omit [DecidableEq T] in
theorem steady_work (u : State J T W) (k : ℕ) : Steady u (.work k : Event J T O) :=
  ⟨by simp, rfl, by simp⟩

omit [DecidableEq T] in
theorem steady_own (u : State J T W) : Steady u (.own : Event J T O) := ⟨by simp, rfl, by simp⟩

theorem drain_one (o : O) {k : ℕ} {job : J} {rest : List J} (hk : s.workers k = .drain)
    (hj : s.jobs = job :: rest) :
    ∃ (es : List (Event J T O)) (u : State J T W), (system c w₀).Run Steady s es u
      ∧ u.workers k = .drain ∧ u.jobs = rest ∧ u.owner = s.owner ∧ u.active = s.active := by
  have hset : ∀ (u : State J T W) (w : Loop J), (u.setWorker k w).workers k = w := by
    simp [State.setWorker]
  have h1 : (system c w₀).Run Steady s [.work k] _ :=
    .single (steady_work s k) (.work (.front hk hj))
  have hrun := run_step (c := c) o
    (hset { s with started := s.started ++ [job] } (.running none)) hj
  have h2 := (h1.snoc ⟨by simp, rfl, by simp⟩ hrun).snoc (steady_work _ k) (.work (.pop (hset _ _)))
  exact ⟨_, _, h2, hset _ _, by simp [State.setWorker, hj], rfl, rfl⟩

/-- The mutex can become free, with the owner and `_active` as they are. -/
def Releases (s : State J T W) : Prop :=
  ∃ (es : List (Event J T O)) (u : State J T W), (system c w₀).Run Steady s es u
    ∧ u.mutex = none ∧ u.owner = s.owner ∧ u.active = s.active

variable {c} {w₀}

theorem Releases.of_run {es : List (Event J T O)} {u : State J T W}
    (hr : (system c w₀).Run Steady s es u) (ho : u.owner = s.owner) (ha : u.active = s.active)
    (h : Releases c w₀ u) : Releases c w₀ s := by
  obtain ⟨fs, v, hv, hm, ho', ha'⟩ := h
  exact ⟨es ++ fs, v, hr.append hv, hm, ho'.trans ho, ha'.trans ha⟩

theorem Releases.of_work {k : ℕ} (hs : LoopStep k s s') (ho : s'.owner = s.owner)
    (ha : s'.active = s.active) (h : Releases c w₀ s') : Releases c w₀ s :=
  .of_run (.single (steady_work s k) (.work hs)) ho ha h

theorem Releases.at_once {k : ℕ} (hs : LoopStep k s s') (hm : s'.mutex = none)
    (ho : s'.owner = s.owner) (ha : s'.active = s.active) : Releases c w₀ s :=
  ⟨_, s', .single (steady_work s k) (.work hs), hm, ho, ha⟩

/-- The worker that is draining the queue can come to its end and give the mutex back. -/
theorem drain_releases (o : O) {k : ℕ} (hk : s.workers k = .drain) : Releases c w₀ s := by
  generalize hj : s.jobs = jobs
  induction jobs generalizing s with
  | nil => exact .at_once (.drained hk hj) rfl rfl rfl
  | cons job rest ih =>
    obtain ⟨es, u, hr, hk', hj', ho, ha⟩ := drain_one c w₀ o hk hj
    exact .of_run hr ho ha (ih hk' hj')

theorem pop_releases (o : O) {k : ℕ} (hk : s.workers k = .pop) : Releases c w₀ s := by
  refine .of_work (.pop hk) rfl rfl (drain_releases (k := k) o ?_)
  simp [State.setWorker]

theorem test_releases (o : O) {k : ℕ} (hk : s.workers k = .test) : Releases c w₀ s := by
  rcases ha : s.active
  · exact .at_once (.leave hk ha) rfl rfl rfl
  · refine .of_work (.stay hk ha) rfl rfl (drain_releases (k := k) o ?_)
    simp [State.setWorker]

theorem check_releases (o : O) {k : ℕ} (hk : s.workers k = .check) : Releases c w₀ s := by
  by_cases hready : s.active = false ∨ s.jobs ≠ []
  · refine .of_work (.ready hk hready) rfl rfl (test_releases (k := k) o ?_)
    simp [State.setWorker]
  · obtain ⟨ha, hj⟩ := not_or.1 hready
    exact .at_once (.sleep hk (by simpa using ha) (by simpa using hj)) rfl rfl rfl

end releases

/-- Whoever holds the mutex, other than the owner, can give it back. -/
theorem Plain.releases (h : Plain c w₀ s) (o : O) (hm : s.mutex ≠ some .owner) :
    Releases c w₀ s := by
  have hi := inv_reachable h.reachable
  rcases hth : s.mutex with _ | k | _ | t
  · exact ⟨[], s, .nil s, hth, rfl, rfl⟩
  · have hh : (s.workers k).holds = true := (hi.lock (.worker k)).2 hth
    cases hk : s.workers k with
    | check => exact check_releases o hk
    | test => exact test_releases o hk
    | drain => exact drain_releases o hk
    | pop => exact pop_releases o hk
    | running p =>
      rcases p with _ | p
      · obtain ⟨job, hj, -⟩ := running_front h.reachable (k := k) (by simp [hk, Loop.phase])
        have hr : (system c w₀).Run Steady s [.run k o] _ :=
          .single ⟨by simp, rfl, by simp⟩ (run_step o hk hj)
        refine .of_run hr rfl rfl (pop_releases (k := k) o ?_)
        simp [State.setWorker]
      · exact absurd ⟨k, p, hk⟩ h.outside
    | _ => simp [hk, Loop.holds] at hh
  · exact absurd hth hm
  · obtain ⟨es, u, hr, hu, -, ho, ha, -⟩ := producer_releases c w₀ hi hth
    exact ⟨es, u, hr, hu, ho, ha⟩

def CanReturn (c : Config J W O) (w₀ : W → Prop) (s : State J T W) : Prop :=
  ∃ (es : List (Event J T O)) (u t : State J T W), (system c w₀).Run Steady s es u
    ∧ Step c u (.returned : Event J T O) t

theorem CanReturn.of_run {es : List (Event J T O)} {u : State J T W}
    (hr : (system c w₀).Run Steady s es u) (h : CanReturn c w₀ u) : CanReturn c w₀ s := by
  obtain ⟨fs, v, t, hv, ht⟩ := h
  exact ⟨es ++ fs, v, t, hr.append hv, ht⟩

theorem CanReturn.of_step {e : Event J T O} (he : Steady s e) (hs : Step c s e s')
    (h : CanReturn c w₀ s') : CanReturn c w₀ s := .of_run (.single he hs) h

section joining

variable {k : ℕ} (ho : s.owner = .join) (ht : s.thread = some k) (ha : s.active = false)

include ho ht

theorem join_exited (hk : s.workers k = .exited) : CanReturn c w₀ s :=
  ⟨[], s, _, .nil s, .returned (.joined ho ht hk)⟩

include ha

theorem join_head (hk : s.workers k = .head) : CanReturn c w₀ s := by
  refine .of_step (steady_work s k) (.work (.head hk)) (join_exited (k := k) ho ht ?_)
  simp [State.setWorker, ha]

theorem join_test (hk : s.workers k = .test) : CanReturn c w₀ s := by
  refine .of_step (steady_work s k) (.work (.leave hk ha)) (join_exited (k := k) ho ht ?_)
  simp [State.setWorker]

theorem join_check (hk : s.workers k = .check) : CanReturn c w₀ s := by
  refine .of_step (steady_work s k) (.work (.ready hk (.inl ha))) (join_test (k := k) ho ht ha ?_)
  simp [State.setWorker]

theorem join_locking (hk : s.workers k = .lock ∨ s.workers k = .woken) (hm : s.mutex = none) :
    CanReturn c w₀ s := by
  rcases hk with hk | hk
  · refine .of_step (steady_work s k) (.work (.lock hk hm)) (join_check (k := k) ho ht ha ?_)
    simp [State.setWorker]
  · refine .of_step (steady_work s k) (.work (.relock hk hm)) (join_check (k := k) ho ht ha ?_)
    simp [State.setWorker]

theorem join_blocked (hi : Inv s) (hk : s.workers k = .lock ∨ s.workers k = .woken) :
    CanReturn c w₀ s := by
  rcases hm : s.mutex with _ | j | _ | t
  · exact join_locking ho ht ha hk hm
  · exfalso
    have hj : (s.workers j).holds = true := (hi.lock (.worker j)).2 hm
    have hjk : j = k := by
      refine hi.alive_unique ?_ (by rcases hk with hk | hk <;> simp [hk, Loop.alive])
      cases hw : s.workers j <;> simp_all [Loop.holds, Loop.alive]
    rcases hk with hk | hk <;> simp [hjk, hk, Loop.holds] at hj
  · exfalso
    have hh : s.owner.holds = true := (hi.lock .owner).2 hm
    simp [ho, Owner.holds] at hh
  · obtain ⟨es, u, hr, hu, hw, ho', ha', ht'⟩ := producer_releases c w₀ hi hm
    exact .of_run hr (join_locking (ho'.trans ho) (ht'.trans ht) (ha'.trans ha) (by rwa [hw]) hu)

theorem join_notified {t : T} (hi : Inv s) (hk : s.workers k = .waiting)
    (hp : s.producers t = some .notify) : CanReturn c w₀ s := by
  have hn : NotifyOne s (s.setWorker k .woken) := .wakes hk
  have hs : Step c s (.process t) ((s.setWorker k .woken).setProducer t none) :=
    .process hp (.notify hn)
  refine .of_step ⟨by simp, rfl, by simp⟩ hs
    (join_blocked (k := k) ho ht ha (hi.step hs) (.inr ?_))
  simp [State.setProducer, State.setWorker]

end joining

theorem Plain.joins (h : Plain c w₀ s) (ho : s.owner = .join) : CanReturn c w₀ s := by
  have hi := inv_reachable h.reachable
  have hat := attended_reachable h.reachable
  have ha := hi.stopping (by simp [ho, Owner.stopping])
  rcases ht : s.thread with _ | k
  · exact ⟨[], s, _, .nil s, .returned (.unjoinable ho ht)⟩
  · have hd := hi.not_draining (by simp [ho, Owner.closing]) k
    cases hk : s.workers k with
    | unborn => exact absurd hk (hat.born k ht)
    | head => exact join_head ho ht ha hk
    | lock => exact join_blocked ho ht ha hi (.inl hk)
    | check => exact join_check ho ht ha hk
    | woken => exact join_blocked ho ht ha hi (.inr hk)
    | test => exact join_test ho ht ha hk
    | exited => exact join_exited ho ht hk
    | waiting =>
      rcases hat.waiting k hk with ⟨hact, -⟩ | hn | hn | ⟨t, hp | hp⟩
      · simp [ha] at hact
      · simp [ho] at hn
      · simp [ho] at hn
      · have hs : Step c s (.process t) _ := .process hp .unlock
        refine .of_step ⟨by simp, rfl, by simp⟩ hs
          (join_notified (k := k) (t := t) ho ht ha (hi.step hs) hk ?_)
        simp [State.setProducer]
      · exact join_notified ho ht ha hi hk hp
    | _ => simp [hk, Loop.draining] at hd

omit [DecidableEq T] in
theorem exists_notifyOne (s : State J T W) : ∃ u, NotifyOne s u := by
  by_cases hk : ∃ k, s.workers k = .waiting
  · obtain ⟨k, hk⟩ := hk
    exact ⟨_, .wakes hk⟩
  · exact ⟨s, .lost (not_exists.1 hk)⟩

theorem Plain.notifies (h : Plain c w₀ s) (ho : s.owner = .notify) : CanReturn c w₀ s := by
  obtain ⟨u, hu⟩ := exists_notifyOne s
  have hs : Step c s (.own : Event J T O) { u with owner := .join } := .own (.notify ho hu)
  exact .of_step (steady_own s) hs ((h.step rfl hs).joins rfl)

theorem Plain.unlocks (h : Plain c w₀ s) (ho : s.owner = .unlock) : CanReturn c w₀ s := by
  have hs : Step c s (.own : Event J T O) _ := .own (.unlock ho)
  exact .of_step (steady_own s) hs ((h.step rfl hs).notifies rfl)

theorem Plain.clears (h : Plain c w₀ s) (ho : s.owner = .clear) : CanReturn c w₀ s := by
  have hs : Step c s (.own : Event J T O) _ := .own (.clear ho)
  exact .of_step (steady_own s) hs ((h.step rfl hs).unlocks rfl)

theorem Plain.locks (h : Plain c w₀ s) (o : O) (ho : s.owner = .lock) : CanReturn c w₀ s := by
  have hm : s.mutex ≠ some .owner := by
    intro hm
    have hh : s.owner.holds = true := ((inv_reachable h.reachable).lock .owner).2 hm
    simp [ho, Owner.holds] at hh
  obtain ⟨es, u, hr, hu, ho', -⟩ := h.releases o hm
  have hs : Step c u (.own : Event J T O) _ := .own (.lock (ho'.trans ho) hu)
  have hp := (h.run (fun _ _ he => he.2.1) hr).step rfl hs
  exact .of_run hr (.of_step (steady_own u) hs (hp.clears rfl))

/-- A call of `tearDown()` under way can always come to its return, if no job has called the
storage that runs it. -/
theorem Plain.returns (h : Plain c w₀ s) (o : O)
    (ho : s.owner = .terminate ∨ s.owner = .lock ∨ s.owner.closing = true) : CanReturn c w₀ s := by
  rcases ho with ho | ho | ho
  · rcases ha : s.active
    · exact ⟨[], s, _, .nil s, .returned (.inactive ho ha)⟩
    · have hs : Step c s (.own : Event J T O) _ := .own (.test ho ha)
      exact .of_step (steady_own s) hs ((h.step rfl hs).locks o rfl)
  · exact h.locks o ho
  · cases hs : s.owner with
    | clear => exact h.clears hs
    | unlock => exact h.unlocks hs
    | notify => exact h.notifies hs
    | join => exact h.joins hs
    | _ => simp [hs, Owner.closing] at ho

/-- However a call of `tearDown()` and the other threads have come along, it can return, and when it
does no worker is left. -/
theorem tearDown_returns {s₁ u : State J T W} {es : List (Event J T O)} (h : Plain c w₀ s) (o : O)
    (hc : Step c s (.tearDown : Event J T O) s₁)
    (hr : (system c w₀).Run (fun _ e => e ≠ .returned ∧ e.reenters = false) s₁ es u) :
    CanReturn c w₀ u
      ∧ ∀ t, Step c u (.returned : Event J T O) t → ∀ k, (t.workers k).alive = false := by
  have hu := (h.step rfl hc).run (fun _ _ he => he.2) hr
  refine ⟨hu.returns o ?_, fun t ht k => ?_⟩
  · rcases tearDown_path h.reachable hc (hr.mono fun _ _ he => he.1) with ⟨ho, -⟩ | ho | ⟨ho, -⟩
    · exact .inl ho
    · exact .inr (.inl ho)
    · exact .inr (.inr ho)
  · cases ht with
    | returned hret =>
      have hw : t.workers = u.workers := by cases hret <;> rfl
      rw [hw]
      exact (inv_reachable hu.reachable).dead_of_returned hret k

end DataStorage

end SensorityCollector
