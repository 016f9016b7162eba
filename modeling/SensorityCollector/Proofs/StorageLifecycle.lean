import SensorityCollector.Proofs.StorageStop

/-!
# What `_active` stands for

`setUp()` sets `_active` before it makes the thread, and everybody else takes the flag for the
thread. As long as threads can be made, the flag is set exactly while a worker is there; after one
that could not, `setUp()` refuses to try again.
-/

namespace SensorityCollector

open Transition

namespace DataStorage

variable {J T W O : Type*} {c : Config J W O} {s s' : State J T W}

/-- `_thread` is the handle of a worker that has not ended. -/
def State.running (s : State J T W) : Prop :=
  ∃ k, s.thread = some k ∧ (s.workers k).alive = true

/-- The constructor of `std::thread` does not throw. -/
def Spawns (_ : State J T W) (e : Event J T O) : Prop := e ≠ .spawnThrows

/-- A worker is there from its making to the clearing of the flag. -/
structure Backed (s : State J T W) : Prop where
  thread : s.active = true → s.owner ≠ .spawn → s.thread ≠ none
  worker : ∀ k, s.thread = some k → s.active = true → (s.workers k).alive = true

theorem Backed.frame (h : Backed s) (ha : s'.active = s.active) (ht : s'.thread = s.thread)
    (ho : s.active = true → s'.owner ≠ .spawn → s.owner ≠ .spawn)
    (hw : ∀ k, s.active = true → (s.workers k).alive = true → (s'.workers k).alive = true) :
    Backed s' := by
  refine ⟨fun hact hs => ?_, fun k hk hact => ?_⟩
  · rw [ha] at hact
    rw [ht]
    exact h.thread hact (ho hact hs)
  · rw [ha] at hact
    rw [ht] at hk
    exact hw k hact (h.worker k hk hact)

theorem Backed.setWorker (h : Backed s) {k : ℕ} {w : Loop J} (ha : s'.active = s.active)
    (ht : s'.thread = s.thread) (ho : s'.owner = s.owner)
    (hs : s'.workers = Function.update s.workers k w) (hw : s.active = true → w.alive = true) :
    Backed s' := by
  refine h.frame ha ht (fun _ hn => ho ▸ hn) fun j hact hj => ?_
  rw [hs]
  by_cases hjk : j = k
  · rw [hjk, Function.update_self]
    exact hw hact
  · rw [Function.update_of_ne hjk]
    exact hj

theorem Backed.notifyOne (h : Backed s) (hs : NotifyOne s s') : Backed s' := by
  rcases hs with hk | _
  · exact h.setWorker rfl rfl rfl rfl fun _ => rfl
  · exact h

theorem Backed.loop (h : Backed s) {k : ℕ} (hs : LoopStep k s s') : Backed s' := by
  cases hs with
  | head hk =>
    refine h.setWorker rfl rfl rfl rfl fun hact => ?_
    rw [if_pos hact]
    rfl
  | leave hk ha =>
    refine h.setWorker rfl rfl rfl rfl fun hact => ?_
    rw [ha] at hact
    cases hact
  | _ => exact h.setWorker rfl rfl rfl rfl fun _ => rfl

theorem Backed.own (h : Backed s) (hi : Inv s) (hs : OwnerStep c s s') : Backed s' := by
  cases hs with
  | activate ho _ =>
    have ht := hi.making (by rw [ho]; rfl)
    refine ⟨fun _ hn => absurd rfl hn, fun k hk _ => ?_⟩
    rw [ht] at hk
    cases hk
  | spawn ho =>
    refine ⟨fun _ _ => by simp [State.setWorker], fun k hk _ => ?_⟩
    obtain rfl : s.spawned = k := by simpa [State.setWorker] using hk
    simp [State.setWorker, Loop.alive]
  | clear _ => exact ⟨by simp, by simp⟩
  | @notify s' ho hn =>
    have hstop := hi.stopping (by rw [ho]; rfl)
    have hoff : s'.active = false := (notified hn).active.trans hstop
    exact ⟨by simp [hoff], by simp [hoff]⟩
  | _ => exact h.frame rfl rfl (by simp_all) fun _ _ hk => hk

theorem Inv.backed_of_returned (hi : Inv s) (hs : ReturnStep s s') : Backed s' := by
  have hoff : s'.active = false := by
    cases hs with
    | inactive _ ha => exact ha
    | unjoinable ho _ => exact hi.stopping (by rw [ho]; rfl)
    | joined ho _ _ => exact hi.stopping (by rw [ho]; rfl)
  exact ⟨by simp [hoff], by simp [hoff]⟩

variable [DecidableEq T] {w₀ : W → Prop}

theorem Backed.step {e : Event J T O} (h : Backed s) (hi : Inv s) (hs : Step c s e s')
    (hp : Spawns s e) : Backed s' := by
  cases hs with
  | process _ hst =>
    cases hst with
    | notify hn => exact (h.notifyOne hn).frame rfl rfl (fun _ hn => hn) fun _ _ hk => hk
    | _ => exact h.frame rfl rfl (fun _ hn => hn) fun _ _ hk => hk
  | work hw => exact h.loop hw
  | nested hk hst => exact absurd hst (hi.not_nested hk)
  | setUp ho => exact h.frame rfl rfl (by simp [ho]) fun _ _ hk => hk
  | tearDown ho => exact h.frame rfl rfl (by simp [ho]) fun _ _ hk => hk
  | own ho => exact h.own hi ho
  | spawnThrows _ => exact absurd rfl hp
  | returned hr => exact hi.backed_of_returned hr
  | call _ => exact h.frame rfl rfl (fun _ hn => hn) fun _ _ hk => hk
  | _ => exact h.setWorker rfl rfl rfl rfl fun _ => rfl

theorem backed_reachable (h : (system (T := T) c w₀).ReachableBy Spawns s) : Backed s := by
  refine h.invariant ?_ fun u e v hu hb hp hs => hb.step (inv_reachable hu.reachable) hs hp
  rintro _ ⟨w, -, rfl⟩
  exact ⟨by simp [fresh], by simp [fresh]⟩

omit [DecidableEq T] in
theorem Backed.running (h : Backed s) (ho : s.owner ≠ .spawn) (ha : s.active = true) :
    s.running := by
  rcases ht : s.thread with _ | k
  · exact absurd ht (h.thread ha ho)
  · exact ⟨k, ht, h.worker k ht ha⟩

omit [DecidableEq T] in
theorem Inv.active_of_running (h : Inv s) (ho : s.owner.stopping = false) (hr : s.running) :
    s.active = true := by
  obtain ⟨k, ht, -⟩ := hr
  rcases h.handle k ht with ha | hs
  · exact ha
  · rw [ho] at hs
    cases hs

def Owner.inSetUp : Owner → Bool
  | .setUp | .creating _ | .spawn => true
  | _ => false

/-- A call of `setUp()` that began in `s` has come to `u`. -/
structure SettingUp (s u : State J T W) : Prop where
  active : u.owner ≠ .spawn → u.active = s.active
  thread : u.thread = s.thread
  accepting : u.owner ≠ .setUp → s.active = false
  jobs : s.active = false →
    ∃ new, u.accepted = s.accepted ++ new ∧ u.jobs = s.jobs ++ new

/-- The other threads leave the flag and the handle to the owner. -/
theorem step_inSetUp {e : Event J T O} (hi : Inv s) (hs : Step c s e s') (he : e ≠ .own)
    (hp : Spawns s e) (ho : s.owner.inSetUp = true) :
    s'.owner = s.owner ∧ s'.active = s.active ∧ s'.thread = s.thread := by
  cases hs with
  | process _ hst =>
    cases hst with
    | notify hn => exact ⟨(notified hn).owner, (notified hn).active, (notified hn).thread⟩
    | _ => exact ⟨rfl, rfl, rfl⟩
  | work hw => cases hw <;> exact ⟨rfl, rfl, rfl⟩
  | nested hk hst => exact absurd hst (hi.not_nested hk)
  | setUp hi => simp [hi, Owner.inSetUp] at ho
  | tearDown hi => simp [hi, Owner.inSetUp] at ho
  | own _ => exact absurd rfl he
  | spawnThrows _ => exact absurd rfl hp
  | returned hr => cases hr <;> simp_all [Owner.inSetUp]
  | _ => exact ⟨rfl, rfl, rfl⟩

theorem jobs_grow {e : Event J T O} (hi : Inv s) (hs : Step c s e s') (ht : s.thread = none)
    (ht' : s'.thread = none) :
    ∃ new, s'.accepted = s.accepted ++ new ∧ s'.jobs = s.jobs ++ new := by
  have hdead : ∀ {u : State J T W}, Inv u → u.thread = none →
      ∀ k, (u.workers k).phase = .other := by
    intro u hu hn k
    by_contra hp
    have hk := hu.alive k (Loop.alive_of_phase hp)
    rw [hn] at hk
    cases hk
  cases step_effect hi hs with
  | quiet _ hj ha _ _ => exact ⟨[], by simp [ha], by simp [hj]⟩
  | accept job _ _ hj ha _ _ => exact ⟨[job], ha, hj⟩
  | take k _ _ _ hk _ _ _ _ _ => simp [hdead (hi.step hs) ht' k] at hk
  | run k _ _ hk _ _ _ _ _ _ => simp [hdead hi ht k] at hk
  | pop k hk _ _ _ _ _ => simp [hdead hi ht k] at hk

theorem SettingUp.step {u v : State J T W} {e : Event J T O} (h : SettingUp s u) (hi : Inv u)
    (hnone : s.active = false → s.thread = none) (ho : u.owner.inSetUp = true)
    (hs : Step c u e v) (ho' : v.owner.inSetUp = true) : SettingUp s v := by
  have hjobs : v.thread = s.thread → s.active = false →
      ∃ new, v.accepted = s.accepted ++ new ∧ v.jobs = s.jobs ++ new := by
    intro ht hoff
    obtain ⟨new, ha, hj⟩ := h.jobs hoff
    obtain ⟨more, ha', hj'⟩ := jobs_grow hi hs (h.thread.trans (hnone hoff)) (ht.trans (hnone hoff))
    exact ⟨new ++ more, by rw [ha', ha, List.append_assoc], by rw [hj', hj, List.append_assoc]⟩
  by_cases he : e = .own
  · subst he
    cases hs with
    | own hown =>
      cases hown with
      | accept hu hoff =>
        have hact := h.active (by rw [hu]; simp)
        exact ⟨fun _ => hact, h.thread, fun _ => hact ▸ hoff, hjobs h.thread⟩
      | create hu hn =>
        exact ⟨fun _ => h.active (by rw [hu]; simp), h.thread,
          fun _ => h.accepting (by rw [hu]; simp), hjobs h.thread⟩
      | activate hu hn =>
        exact ⟨fun hne => absurd rfl hne, h.thread, fun _ => h.accepting (by rw [hu]; simp),
          hjobs h.thread⟩
      | spawn hu => cases ho'
      | _ => simp_all [Owner.inSetUp]
  · have hp : Spawns u e := by
      rintro rfl
      cases hs
      cases ho'
    obtain ⟨hown, hact, hth⟩ := step_inSetUp hi hs he hp ho
    refine ⟨fun hne => ?_, hth.trans h.thread, fun hne => ?_, hjobs (hth.trans h.thread)⟩
    · rw [hown] at hne
      exact hact.trans (h.active hne)
    · rw [hown] at hne
      exact h.accepting hne

def DuringSetUp (s : State J T W) (_ : Event J T O) : Prop := s.owner.inSetUp = true

theorem setUp_path {s₁ u : State J T W} {es : List (Event J T O)}
    (hs : (system (T := T) c w₀).Reachable s) (hc : Step c s (.setUp : Event J T O) s₁)
    (hr : (system c w₀).Run DuringSetUp s₁ es u) (ho : u.owner.inSetUp = true) :
    SettingUp s u := by
  have hidle : s.owner = .idle := by
    cases hc
    assumption
  have hnone : s.active = false → s.thread = none := fun hoff =>
    (inv_reachable hs).thread_none hoff (by rw [hidle]; rfl)
  induction hr with
  | nil =>
    cases hc with
    | setUp _ =>
      exact ⟨fun _ => rfl, rfl, fun hne => absurd rfl hne, fun _ => ⟨[], by simp, by simp⟩⟩
  | @snoc t u es e hr' hd hst ih =>
    have ht := (hr'.mono fun _ _ _ => trivial).reachableBy (hs.next hc)
    exact (ih hd).step (inv_reachable ht) hnone hd hst ho

/-- With the event `e`, `setUp()` leaves by an exception: nothing has been spawned. -/
def SetUpThrows (c : Config J W O) (u : State J T W) (e : Event J T O) (t : State J T W) : Prop :=
  Step c u e t ∧ u.owner.inSetUp = true ∧ t.owner = .idle ∧ t.spawned = u.spawned

/-- A `setUp()` that throws, other than for want of a thread, changes nothing but the world. -/
theorem setUp_throws {s₁ u t : State J T W} {es : List (Event J T O)} {e : Event J T O}
    (hs : (system (T := T) c w₀).Reachable s) (hc : Step c s (.setUp : Event J T O) s₁)
    (hr : (system c w₀).Run DuringSetUp s₁ es u) (ht : SetUpThrows c u e t) (hp : Spawns u e) :
    t.active = s.active ∧ t.thread = s.thread
      ∧ (s.active = false → ∃ new, t.accepted = s.accepted ++ new ∧ t.jobs = s.jobs ++ new) := by
  obtain ⟨hstep, ho, hidle, hspawned⟩ := ht
  have hpath := setUp_path hs hc hr ho
  have hu := (hr.mono fun _ _ _ => trivial).reachableBy (hs.next hc)
  have he : e = .own := by
    by_contra he
    rw [(step_inSetUp (inv_reachable hu) hstep he hp ho).1] at hidle
    rw [hidle] at ho
    cases ho
  subst he
  cases hstep with
  | own hown =>
    cases hown with
    | refuse hu ha => exact ⟨hpath.active (by rw [hu]; simp), hpath.thread, hpath.jobs⟩
    | createThrows hu hn => exact ⟨hpath.active (by rw [hu]; simp), hpath.thread, hpath.jobs⟩
    | spawn hu => simp [State.setWorker] at hspawned
    | _ => simp_all [Owner.inSetUp]

omit [DecidableEq T] in
theorem jobs_own (hs : OwnerStep c s s') : s'.jobs = s.jobs := by
  cases hs with
  | notify _ hn => exact (notified hn).jobs
  | _ => rfl

/-- In every run in which threads can be made: after every call `_active` says whether a worker
runs; `setUp()` refuses only while one does, and never assigns to a joinable handle; no step of
`setUp()` or `tearDown()` touches the queue; and a `setUp()` that throws leaves the flag, the handle
and the queue as they were, ready to be called again. -/
theorem lifecycle (h : (system (T := T) c w₀).ReachableBy Spawns s) :
    (s.owner = .idle → (s.active = true ↔ s.running))
      ∧ (s.owner = .setUp → s.active = true → s.running)
      ∧ (s.owner = .spawn → s.thread = none)
      ∧ (∀ (e : Event J T O) t, e = .own ∨ e = .spawnThrows → Step c s e t → t.jobs = s.jobs)
      ∧ ∀ s₁ u t es e, Step c s (.setUp : Event J T O) s₁ →
        (system c w₀).Run DuringSetUp s₁ es u → SetUpThrows c u e t → Spawns u e →
          t.active = s.active ∧ t.thread = s.thread
          ∧ (s.active = false → (∃ new, t.accepted = s.accepted ++ new ∧ t.jobs = s.jobs ++ new)
            ∧ ∃ t₁ t₂, Step c t (.setUp : Event J T O) t₁ ∧ Step c t₁ (.own : Event J T O) t₂
              ∧ t₂.owner = .creating 0) := by
  have hb := backed_reachable h
  have hi := inv_reachable h.reachable
  refine ⟨fun ho => ⟨hb.running (by rw [ho]; simp), hi.active_of_running (by rw [ho]; rfl)⟩,
    fun ho => hb.running (by rw [ho]; simp), fun ho => hi.making (by rw [ho]; rfl),
    fun e t he ht => ?_, fun s₁ u t es e hc hr ht hp => ?_⟩
  · rcases he with rfl | rfl
    · cases ht with
      | own hown => exact jobs_own hown
    · cases ht
      rfl
  · obtain ⟨ha, hth, hj⟩ := setUp_throws h.reachable hc hr ht hp
    exact ⟨ha, hth, fun hoff => ⟨hj hoff, _, _, .setUp ht.2.2.1,
      .own (.accept rfl (ha.trans hoff)), rfl⟩⟩

/-- A thread that cannot be made leaves the flag set without a worker. -/
theorem spawn_fails {e : Event J T O} (h : (system (T := T) c w₀).Reachable s)
    (hs : Step c s e s') (hp : ¬ Spawns s e) :
    s'.owner = .idle ∧ s'.active = true ∧ ¬ s'.running := by
  have hi := inv_reachable h
  obtain rfl : e = .spawnThrows := not_not.1 hp
  cases hs with
  | spawnThrows ho =>
    refine ⟨rfl, hi.spawning ho, ?_⟩
    rintro ⟨k, hk, -⟩
    exact absurd (hk.symm.trans (hi.making (by rw [ho]; rfl))) (by simp)

/-- The storage after a `setUp()` for which there was no thread. -/
def plainThreadless : State ℕ Unit Unit := { fresh () with active := true }

theorem plain_threadless : (system (T := Unit) plain fun _ => True).Reachable plainThreadless :=
  have h₀ : (system (T := Unit) plain fun _ => True).Reachable (fresh ()) :=
    .init ⟨(), trivial, rfl⟩
  (((h₀.next (.setUp rfl)).next (.own (.accept rfl rfl))).next
    (.own (.activate rfl rfl))).next (.spawnThrows rfl)

/-- `_active` is set with no worker there, and `setUp()`, called again, refuses. -/
theorem flag_lies : ¬ ∀ s : State ℕ Unit Unit, (system plain fun _ => True).Reachable s →
    (s.owner = .idle → (s.active = true ↔ s.running))
      ∧ (s.owner = .setUp → s.active = true → s.running) := by
  intro h
  obtain ⟨k, hk, -⟩ := ((h _ plain_threadless).1 rfl).1 rfl
  cases hk

theorem lifecycle_plain : ∃ s : State ℕ Unit Unit, s.spawned = 1 ∧ s.owner = .idle
    ∧ s.active = true ∧ s.running := by
  have h₀ : (system (T := Unit) plain fun _ => True).ReachableBy Spawns (fresh ()) :=
    .init ⟨(), trivial, rfl⟩
  have h₁ := h₀.step (e := .setUp) nofun (.setUp rfl)
  have h₂ := h₁.step (e := .own) nofun (.own (.accept rfl rfl))
  have h₃ := h₂.step (e := .own) nofun (.own (.activate rfl rfl))
  have hs := h₃.step (e := .own) nofun (.own (.spawn rfl))
  exact ⟨_, rfl, rfl, rfl, ((lifecycle hs).1 rfl).1 rfl⟩

end DataStorage

end SensorityCollector
