import SensorityCollector.Storage

/-!
# Who holds the mutex, and which workers are alive

A thread holds `_mutex` exactly while it is at a statement between its `lock` and its `unlock`.
The worker is there whenever it runs a job, so a job that calls `process()` stops at the lock its
own worker holds (`Inv.not_nested`). At most the worker `_thread` is the handle of is alive, and it
drains only while `_active` is set, since `_active` is cleared under the mutex.
-/

namespace SensorityCollector

open Transition

namespace DataStorage

variable {J T W O : Type*}

/-- Between `lock` and `unlock` in `process()`. -/
def Process.holds : Process J → Bool
  | .emplace _ | .unlock => true
  | .lock _ | .notify => false

namespace Loop

/-- Between the lock and its release in `loop()`. -/
def holds : Loop J → Bool
  | .check | .test | .drain | .running _ | .pop => true
  | _ => false

/-- In the inner `while`. -/
def draining : Loop J → Bool
  | .drain | .running _ | .pop => true
  | _ => false

def alive : Loop J → Bool
  | .unborn | .exited => false
  | _ => true

theorem holds_of_draining {w : Loop J} (h : w.draining = true) : w.holds = true := by
  cases w <;> simp_all [holds, draining]

end Loop

namespace Owner

def holds : Owner → Bool
  | .clear | .unlock => true
  | _ => false

/-- In `setUp()`, past the test of `_active`. -/
def making : Owner → Bool
  | .creating _ | .spawn => true
  | _ => false

/-- In `terminate()`, with `_active` cleared. -/
def stopping : Owner → Bool
  | .unlock | .notify | .join => true
  | _ => false

end Owner

/-- The thread is at a statement between its `lock` and its `unlock`. -/
def State.holds (s : State J T W) : Thread T → Bool
  | .worker k => (s.workers k).holds
  | .owner => s.owner.holds
  | .producer t => (s.producers t).any Process.holds

structure Inv (s : State J T W) : Prop where
  lock : ∀ th, s.holds th = true ↔ s.mutex = some th
  nested : ∀ k p, s.workers k = .running (some p) → ∃ job, p = .lock job
  draining : ∀ k, (s.workers k).draining = true → s.active = true
  alive : ∀ k, (s.workers k).alive = true → s.thread = some k
  unborn : ∀ k, s.spawned ≤ k → s.workers k = .unborn
  handle : ∀ k, s.thread = some k → s.active = true ∨ s.owner.stopping = true
  making : s.owner.making = true → s.thread = none
  spawning : s.owner = .spawn → s.active = true
  stopping : s.owner.stopping = true → s.active = false

theorem inv_fresh (w : W) : Inv (fresh w : State J T W) where
  lock th := by cases th <;> simp [fresh, State.holds, Loop.holds, Owner.holds]
  nested k p h := by simp [fresh] at h
  draining k h := by simp [fresh, Loop.draining] at h
  alive k h := by simp [fresh, Loop.alive] at h
  unborn k _ := rfl
  handle k h := by simp [fresh] at h
  making h := by simp [fresh, Owner.making] at h
  spawning h := by simp [fresh] at h
  stopping h := by simp [fresh, Owner.stopping] at h

section Lock

variable {s s' : State J T W}

/-- A thread that takes the free mutex, releases the one it holds, or leaves it alone keeps it
held by exactly the thread between `lock` and `unlock`. -/
theorem lock_of (h : ∀ th, s.holds th = true ↔ s.mutex = some th) (th : Thread T)
    (hother : ∀ th', th' ≠ th → s'.holds th' = s.holds th')
    (hth : (s'.mutex = s.mutex ∧ s'.holds th = s.holds th)
      ∨ (s.mutex = none ∧ s'.mutex = some th ∧ s'.holds th = true)
      ∨ (s.holds th = true ∧ s'.mutex = none ∧ s'.holds th = false)) :
    ∀ th', s'.holds th' = true ↔ s'.mutex = some th' := by
  intro th'
  by_cases he : th' = th
  · subst he
    rcases hth with ⟨hm, hh⟩ | ⟨-, hm, hh⟩ | ⟨-, hm, hh⟩
    · rw [hm, hh]
      exact h th'
    · simp [hm, hh]
    · simp [hm, hh]
  · rw [hother th' he, h th']
    rcases hth with ⟨hm, -⟩ | ⟨hn, hm, -⟩ | ⟨hh, hm, -⟩
    · rw [hm]
    · simp [hn, hm, Ne.symm he]
    · simp [(h th).1 hh, hm, Ne.symm he]

variable [DecidableEq T]

@[simp] theorem holds_setWorker (k : ℕ) (w : Loop J) (th : Thread T) :
    (s.setWorker k w).holds th = if th = .worker k then w.holds else s.holds th := by
  cases th with
  | worker j =>
    by_cases hj : j = k
    · subst hj
      simp [State.holds, State.setWorker]
    · simp [State.holds, State.setWorker, hj]
  | owner => simp [State.holds, State.setWorker]
  | producer t => simp [State.holds, State.setWorker]

@[simp] theorem holds_setProducer (t : T) (p : Option (Process J)) (th : Thread T) :
    (s.setProducer t p).holds th = if th = .producer t then p.any Process.holds
      else s.holds th := by
  cases th with
  | producer u =>
    by_cases hu : u = t
    · subst hu
      simp [State.holds, State.setProducer]
    · simp [State.holds, State.setProducer, hu]
  | owner => simp [State.holds, State.setProducer]
  | worker k => simp [State.holds, State.setProducer]

end Lock

section Steps

variable {c : Config J W O} {s s' : State J T W}

/-- What the workers, the flag, the handle and the owner satisfy does not depend on the rest. -/
theorem Inv.frame (h : Inv s) (hw : s'.workers = s.workers) (ha : s'.active = s.active)
    (ht : s'.thread = s.thread) (hn : s'.spawned = s.spawned) (ho : s'.owner = s.owner)
    (hl : ∀ th, s'.holds th = true ↔ s'.mutex = some th) : Inv s' where
  lock := hl
  nested k p hk := h.nested k p (hw ▸ hk)
  draining k hk := by
    rw [ha]
    exact h.draining k (hw ▸ hk)
  alive k hk := by
    rw [ht]
    exact h.alive k (hw ▸ hk)
  unborn k hk := by
    rw [hw]
    exact h.unborn k (hn ▸ hk)
  handle k hk := by
    rw [ha, ho]
    exact h.handle k (ht ▸ hk)
  making hm := by
    rw [ht]
    exact h.making (ho ▸ hm)
  spawning hm := by
    rw [ha]
    exact h.spawning (ho ▸ hm)
  stopping hm := by
    rw [ha]
    exact h.stopping (ho ▸ hm)

/-- A live worker may go where it drains only if the storage is active. -/
theorem Inv.setWorker (h : Inv s) {k : ℕ} (hk : (s.workers k).alive = true) {w : Loop J}
    (hw : s'.workers = Function.update s.workers k w) (ha : s'.active = s.active)
    (ht : s'.thread = s.thread) (hn : s'.spawned = s.spawned) (ho : s'.owner = s.owner)
    (hl : ∀ th, s'.holds th = true ↔ s'.mutex = some th)
    (hne : ∀ p, w = .running (some p) → ∃ job, p = .lock job)
    (hd : w.draining = true → s.active = true) : Inv s' where
  lock := hl
  nested j p hj := by
    rw [hw] at hj
    by_cases he : j = k
    · subst he
      exact hne p (by simpa using hj)
    · exact h.nested j p (by simpa [he] using hj)
  draining j hj := by
    rw [ha]
    rw [hw] at hj
    by_cases he : j = k
    · subst he
      exact hd (by simpa using hj)
    · exact h.draining j (by simpa [he] using hj)
  alive j hj := by
    rw [ht]
    rw [hw] at hj
    by_cases he : j = k
    · subst he
      exact h.alive j hk
    · exact h.alive j (by simpa [he] using hj)
  unborn j hj := by
    have hjk : j ≠ k := by
      rintro rfl
      rw [h.unborn j (hn ▸ hj)] at hk
      simp [Loop.alive] at hk
    rw [hw, Function.update_of_ne hjk]
    exact h.unborn j (hn ▸ hj)
  handle j hj := by
    rw [ha, ho]
    exact h.handle j (ht ▸ hj)
  making hm := by
    rw [ht]
    exact h.making (ho ▸ hm)
  spawning hm := by
    rw [ha]
    exact h.spawning (ho ▸ hm)
  stopping hm := by
    rw [ha]
    exact h.stopping (ho ▸ hm)

/-- A worker inside `job->run` is at the lock of the mutex it holds, if it is in `process()`. -/
theorem Inv.not_nested (h : Inv s) {k : ℕ} {p : Process J} {p' : Option (Process J)}
    (hk : s.workers k = .running (some p)) : ¬ ProcessStep (.worker k) s p s' p' := by
  intro hp
  obtain ⟨job, rfl⟩ := h.nested k p hk
  have hm : s.mutex = some (.worker k) :=
    (h.lock (.worker k)).1 (by simp [State.holds, hk, Loop.holds])
  cases hp with
  | lock hn => simp [hm] at hn

/-- A notification changes nothing but what a worker is at. -/
structure Notified (s s' : State J T W) : Prop where
  world : s'.world = s.world
  active : s'.active = s.active
  jobs : s'.jobs = s.jobs
  thread : s'.thread = s.thread
  owner : s'.owner = s.owner
  producers : s'.producers = s.producers
  accepted : s'.accepted = s.accepted
  started : s'.started = s.started
  finished : s'.finished = s.finished

theorem notified (hs : NotifyOne s s') : Notified s s' := by
  cases hs <;> constructor <;> rfl

theorem Inv.loop (h : Inv s) {k : ℕ} (hs : LoopStep k s s') : Inv s' := by
  have hl : ∀ {w : Loop J} {u : State J T W}, u.workers = Function.update s.workers k w →
      u.owner = s.owner → u.producers = s.producers →
      (u.mutex = s.mutex ∧ w.holds = (s.workers k).holds
        ∨ s.mutex = none ∧ u.mutex = some (.worker k) ∧ w.holds = true
        ∨ (s.workers k).holds = true ∧ u.mutex = none ∧ w.holds = false) →
      ∀ th, u.holds th = true ↔ u.mutex = some th := by
    intro w u hw ho hp hm
    refine lock_of h.lock (.worker k) (fun th hth => ?_) ?_
    · cases th with
      | worker j =>
        have hj : j ≠ k := fun he => hth (he ▸ rfl)
        simp [State.holds, hw, hj]
      | owner => simp [State.holds, ho]
      | producer t => simp [State.holds, hp]
    · simpa [State.holds, hw] using hm
  cases hs with
  | head hk =>
    refine h.setWorker (by simp [hk, Loop.alive]) rfl rfl rfl rfl rfl ?_ ?_ ?_
    · refine hl rfl rfl rfl (.inl ⟨rfl, ?_⟩)
      split <;> simp [hk, Loop.holds]
    · split <;> simp
    · split <;> simp [Loop.draining]
  | lock hk hm =>
    exact h.setWorker (by simp [hk, Loop.alive]) rfl rfl rfl rfl rfl
      (hl rfl rfl rfl (.inr (.inl ⟨hm, rfl, rfl⟩))) (by simp) (by simp [Loop.draining])
  | ready hk _ =>
    exact h.setWorker (by simp [hk, Loop.alive]) rfl rfl rfl rfl rfl
      (hl rfl rfl rfl (.inl ⟨rfl, by simp [hk, Loop.holds]⟩)) (by simp) (by simp [Loop.draining])
  | sleep hk _ _ =>
    exact h.setWorker (by simp [hk, Loop.alive]) rfl rfl rfl rfl rfl
      (hl rfl rfl rfl (.inr (.inr ⟨by simp [hk, Loop.holds], rfl, rfl⟩))) (by simp)
      (by simp [Loop.draining])
  | relock hk hm =>
    exact h.setWorker (by simp [hk, Loop.alive]) rfl rfl rfl rfl rfl
      (hl rfl rfl rfl (.inr (.inl ⟨hm, rfl, rfl⟩))) (by simp) (by simp [Loop.draining])
  | leave hk _ =>
    exact h.setWorker (by simp [hk, Loop.alive]) rfl rfl rfl rfl rfl
      (hl rfl rfl rfl (.inr (.inr ⟨by simp [hk, Loop.holds], rfl, rfl⟩))) (by simp)
      (by simp [Loop.draining])
  | stay hk ha =>
    exact h.setWorker (by simp [hk, Loop.alive]) rfl rfl rfl rfl rfl
      (hl rfl rfl rfl (.inl ⟨rfl, by simp [hk, Loop.holds]⟩)) (by simp) (fun _ => ha)
  | drained hk _ =>
    exact h.setWorker (by simp [hk, Loop.alive]) rfl rfl rfl rfl rfl
      (hl rfl rfl rfl (.inr (.inr ⟨by simp [hk, Loop.holds], rfl, rfl⟩))) (by simp)
      (by simp [Loop.draining])
  | front hk _ =>
    exact h.setWorker (by simp [hk, Loop.alive]) rfl rfl rfl rfl rfl
      (hl rfl rfl rfl (.inl ⟨rfl, by simp [hk, Loop.holds]⟩)) (by simp)
      (fun _ => h.draining k (by simp [hk, Loop.draining]))
  | pop hk =>
    exact h.setWorker (by simp [hk, Loop.alive]) rfl rfl rfl rfl rfl
      (hl rfl rfl rfl (.inl ⟨rfl, by simp [hk, Loop.holds]⟩)) (by simp)
      (fun _ => h.draining k (by simp [hk, Loop.draining]))

theorem lock_owner (h : Inv s) (hw : s'.workers = s.workers) (hp : s'.producers = s.producers)
    (hm : s'.mutex = s.mutex ∧ s'.owner.holds = s.owner.holds
      ∨ s.mutex = none ∧ s'.mutex = some .owner ∧ s'.owner.holds = true
      ∨ s.owner.holds = true ∧ s'.mutex = none ∧ s'.owner.holds = false) :
    ∀ th, s'.holds th = true ↔ s'.mutex = some th := by
  refine lock_of h.lock .owner (fun th hth => ?_) hm
  cases th with
  | worker j => simp [State.holds, hw]
  | owner => exact absurd rfl hth
  | producer t => simp [State.holds, hp]

/-- A step of the owner that leaves the flag, the handle and the workers alone. -/
theorem Inv.owner (h : Inv s) (hw : s'.workers = s.workers) (ht : s'.thread = s.thread)
    (hn : s'.spawned = s.spawned) (ha : s'.active = s.active)
    (hm : s'.owner.making = true → s.thread = none) (hsp : s'.owner ≠ .spawn)
    (hst : s'.owner.stopping = s.owner.stopping)
    (hl : ∀ th, s'.holds th = true ↔ s'.mutex = some th) : Inv s' where
  lock := hl
  nested k p hk := h.nested k p (hw ▸ hk)
  draining k hk := by
    rw [ha]
    exact h.draining k (hw ▸ hk)
  alive k hk := by
    rw [ht]
    exact h.alive k (hw ▸ hk)
  unborn k hk := by
    rw [hw]
    exact h.unborn k (hn ▸ hk)
  handle k hk := by
    rw [ha, hst]
    exact h.handle k (ht ▸ hk)
  making hu := by
    rw [ht]
    exact hm hu
  spawning hu := absurd hu hsp
  stopping hu := by
    rw [ha]
    exact h.stopping (hst ▸ hu)

/-- A step that only the owner takes notice of. -/
theorem Inv.moveOwner (h : Inv s) {u : Owner} (hh : u.holds = s.owner.holds)
    (hst : u.stopping = s.owner.stopping) (hm : u.making = true → s.thread = none)
    (hsp : u ≠ .spawn) : Inv { s with owner := u } :=
  h.owner rfl rfl rfl rfl hm hsp hst (lock_owner h rfl rfl (.inl ⟨rfl, hh⟩))

theorem Inv.thread_none (h : Inv s) (ha : s.active = false) (ho : s.owner.stopping = false) :
    s.thread = none := by
  rcases ht : s.thread with _ | k
  · rfl
  · rcases h.handle k ht with hk | hk
    · simp [ha] at hk
    · simp [ho] at hk

theorem Inv.alive_unique (h : Inv s) {j k : ℕ} (hj : (s.workers j).alive = true)
    (hk : (s.workers k).alive = true) : j = k := by
  have hjk := (h.alive j hj).symm.trans (h.alive k hk)
  simpa using hjk

theorem Inv.returned (h : Inv s) (hs : ReturnStep s s') : Inv s' := by
  cases hs with
  | inactive ho _ => exact h.moveOwner (by rw [ho]; rfl) (by rw [ho]; rfl) nofun nofun
  | unjoinable ho ht =>
    exact
      { lock := lock_owner h rfl rfl (.inl ⟨rfl, by simp [ho, Owner.holds]⟩)
        nested := h.nested
        draining := h.draining
        alive := h.alive
        unborn := h.unborn
        handle := fun k hk => by simp [ht] at hk
        making := by simp [Owner.making]
        spawning := by simp
        stopping := by simp [Owner.stopping] }
  | @joined k ho ht hk =>
    exact
      { lock := lock_owner h rfl rfl (.inl ⟨rfl, by simp [ho, Owner.holds]⟩)
        nested := h.nested
        draining := h.draining
        alive := by
          intro j hj
          have hjk : k = j := by simpa [ht] using h.alive j hj
          subst hjk
          simp [hk, Loop.alive] at hj
        unborn := h.unborn
        handle := fun k hk => by simp at hk
        making := by simp [Owner.making]
        spawning := by simp
        stopping := by simp [Owner.stopping] }

/-- When `tearDown()` returns, no worker is alive. -/
theorem Inv.dead_of_returned (h : Inv s) (hs : ReturnStep s s') (k : ℕ) :
    (s.workers k).alive = false := by
  rcases hk : (s.workers k).alive
  · rfl
  have ht := h.alive k hk
  cases hs with
  | inactive ho ha =>
    rw [h.thread_none ha (by simp [ho, Owner.stopping])] at ht
    cases ht
  | unjoinable _ hn =>
    rw [hn] at ht
    cases ht
  | joined _ hn he =>
    rw [hn] at ht
    cases ht
    simp [he, Loop.alive] at hk

theorem Inv.spawn (h : Inv s) (ho : s.owner = .spawn) :
    Inv ({ s with thread := some s.spawned, spawned := s.spawned + 1,
                  owner := .idle }.setWorker s.spawned .head) := by
  have ht := h.making (by simp [ho, Owner.making])
  have hdead : ∀ k, (s.workers k).alive = false := by
    intro k
    rcases hk : (s.workers k).alive
    · rfl
    · exact absurd (h.alive k hk) (by simp [ht])
  have hw : ∀ k, k ≠ s.spawned → Function.update s.workers s.spawned .head k = s.workers k :=
    fun k hk => Function.update_of_ne hk _ _
  exact
    { lock := by
        refine lock_of h.lock (.worker s.spawned) (fun th hth => ?_) (.inl ⟨rfl, ?_⟩)
        · cases th with
          | worker k =>
            have hk : k ≠ s.spawned := fun he => hth (he ▸ rfl)
            simp [State.holds, State.setWorker, hk]
          | owner => simp [State.holds, State.setWorker, ho, Owner.holds]
          | producer t => rfl
        · simp [State.holds, State.setWorker, h.unborn s.spawned le_rfl, Loop.holds]
      nested := by
        intro k p hk
        by_cases he : k = s.spawned
        · simp [State.setWorker, he] at hk
        · exact h.nested k p (by simpa [State.setWorker, he] using hk)
      draining := by
        intro k hk
        by_cases he : k = s.spawned
        · simp [State.setWorker, he, Loop.draining] at hk
        · exact h.draining k (by simpa [State.setWorker, he] using hk)
      alive := by
        intro k hk
        by_cases he : k = s.spawned
        · simp [State.setWorker, he]
        · simp [State.setWorker, he, hdead k] at hk
      unborn := by
        intro k hk
        have hk' : s.spawned + 1 ≤ k := hk
        have he : k ≠ s.spawned := by omega
        simpa [State.setWorker, he] using h.unborn k (by omega)
      handle := fun _ _ => .inl (h.spawning ho)
      making := by simp [State.setWorker, Owner.making]
      spawning := by simp [State.setWorker]
      stopping := by simp [State.setWorker, Owner.stopping] }

variable [DecidableEq T]

theorem Inv.notifyOne (h : Inv s) (hs : NotifyOne s s') : Inv s' := by
  cases hs with
  | lost _ => exact h
  | @wakes k hk =>
    refine h.setWorker (k := k) (by simp [hk, Loop.alive]) rfl rfl rfl rfl rfl ?_
      (by simp) (by simp [Loop.draining])
    exact lock_of h.lock (.worker k) (fun th hth => by simp [hth])
      (.inl ⟨rfl, by simp [State.holds, State.setWorker, hk, Loop.holds]⟩)

theorem Inv.own (h : Inv s) (hs : OwnerStep c s s') : Inv s' := by
  cases hs with
  | refuse ho _ => exact h.moveOwner (by rw [ho]; rfl) (by rw [ho]; rfl) nofun nofun
  | accept ho ha =>
    exact h.moveOwner (by rw [ho]; rfl) (by rw [ho]; rfl)
      (fun _ => h.thread_none ha (by simp [ho, Owner.stopping])) nofun
  | create ho _ =>
    exact h.owner rfl rfl rfl rfl (fun _ => h.making (by simp [ho, Owner.making]))
      (by simp) (by simp [ho, Owner.stopping])
      (lock_owner h rfl rfl (.inl ⟨rfl, by simp [ho, Owner.holds]⟩))
  | createThrows ho _ => exact h.moveOwner (by rw [ho]; rfl) (by rw [ho]; rfl) nofun nofun
  | activate ho _ =>
    have ht := h.making (by simp [ho, Owner.making])
    exact
      { lock := lock_owner h rfl rfl (.inl ⟨rfl, by simp [ho, Owner.holds]⟩)
        nested := h.nested
        draining := fun _ _ => rfl
        alive := h.alive
        unborn := h.unborn
        handle := fun _ _ => .inl rfl
        making := fun _ => ht
        spawning := fun _ => rfl
        stopping := by simp [Owner.stopping] }
  | spawn ho => exact h.spawn ho
  | test ho _ => exact h.moveOwner (by rw [ho]; rfl) (by rw [ho]; rfl) nofun nofun
  | lock ho hm =>
    exact h.owner rfl rfl rfl rfl (by simp [Owner.making]) (by simp) (by simp [ho, Owner.stopping])
      (lock_owner h rfl rfl (.inr (.inl ⟨hm, rfl, rfl⟩)))
  | clear ho =>
    have hm : s.mutex = some .owner :=
      (h.lock .owner).1 (by simp [State.holds, ho, Owner.holds])
    exact
      { lock := lock_owner h rfl rfl (.inl ⟨rfl, by simp [ho, Owner.holds]⟩)
        nested := h.nested
        draining := by
          intro k hk
          have := (h.lock (.worker k)).1 (Loop.holds_of_draining hk)
          simp [hm] at this
        alive := h.alive
        unborn := h.unborn
        handle := fun _ _ => .inr rfl
        making := by simp [Owner.making]
        spawning := by simp
        stopping := fun _ => rfl }
  | unlock ho =>
    exact h.owner rfl rfl rfl rfl (by simp [Owner.making]) (by simp) (by simp [ho, Owner.stopping])
      (lock_owner h rfl rfl (.inr (.inr ⟨by simp [ho, Owner.holds], rfl, rfl⟩)))
  | notify ho hn =>
    have h' := h.notifyOne hn
    have ho' := (notified hn).owner.trans ho
    exact h'.moveOwner (by rw [ho']; rfl) (by rw [ho']; rfl) nofun nofun

theorem Inv.process (h : Inv s) {t : T} {p : Process J} {p' : Option (Process J)}
    (ht : s.producers t = some p) (hs : ProcessStep (.producer t) s p s' p') :
    Inv (s'.setProducer t p') := by
  cases hs with
  | lock hm =>
    refine h.frame rfl rfl rfl rfl rfl (lock_of h.lock (.producer t) (fun th hth => ?_)
      (.inr (.inl ⟨hm, rfl, by simp [Process.holds]⟩)))
    simp [hth]
    cases th <;> rfl
  | emplace =>
    refine h.frame rfl rfl rfl rfl rfl (lock_of h.lock (.producer t) (fun th hth => ?_)
      (.inl ⟨rfl, by simp [State.holds, State.setProducer, ht, Process.holds]⟩))
    simp [hth]
    cases th <;> rfl
  | unlock =>
    refine h.frame rfl rfl rfl rfl rfl (lock_of h.lock (.producer t) (fun th hth => ?_)
      (.inr (.inr ⟨by simp [State.holds, ht, Process.holds], rfl, by simp [Process.holds]⟩)))
    simp [hth]
    cases th <;> rfl
  | notify hn =>
    have h' := h.notifyOne hn
    refine h'.frame rfl rfl rfl rfl rfl (lock_of h'.lock (.producer t) (fun th hth => ?_)
      (.inl ⟨rfl, ?_⟩))
    · simp [hth]
    · simp [State.holds, State.setProducer, (notified hn).producers, ht, Process.holds]

theorem Inv.run (h : Inv s) {k : ℕ} (hk : s.workers k = .running none) {w : W} {l : List J} :
    Inv ({ s with world := w, finished := l }.setWorker k .pop) := by
  refine h.setWorker (by simp [hk, Loop.alive]) rfl rfl rfl rfl rfl
    (lock_of h.lock (.worker k) (fun th hth => ?_) (.inl ⟨rfl, ?_⟩)) (by simp)
    (fun _ => h.draining k (by simp [hk, Loop.draining]))
  · simp [hth]
    cases th <;> rfl
  · simp [State.holds, State.setWorker, hk, Loop.holds]

theorem Inv.step {e : Event J T O} (h : Inv s) (hs : Step c s e s') : Inv s' := by
  cases hs with
  | @call t job ht =>
    refine h.frame rfl rfl rfl rfl rfl (lock_of h.lock (.producer t) (fun th hth => ?_)
      (.inl ⟨rfl, ?_⟩))
    · simp [hth]
    · simp [State.holds, State.setProducer, ht, Process.holds]
  | process ht hp => exact h.process ht hp
  | work hw => exact h.loop hw
  | wake hk => exact h.notifyOne (.wakes hk)
  | run hk _ _ => exact h.run hk
  | caught hk _ _ => exact h.run hk
  | @reenter k job hk =>
    refine h.setWorker (by simp [hk, Loop.alive]) rfl rfl rfl rfl rfl
      (lock_of h.lock (.worker k) (fun th hth => ?_) (.inl ⟨rfl, ?_⟩)) (by simp)
      (fun _ => h.draining k (by simp [hk, Loop.draining]))
    · simp [hth]
    · simp [State.holds, State.setWorker, hk, Loop.holds]
  | nested hk hp => exact absurd hp (h.not_nested hk)
  | setUp ho =>
    exact h.owner rfl rfl rfl rfl (by simp [Owner.making]) (by simp) (by simp [ho, Owner.stopping])
      (lock_owner h rfl rfl (.inl ⟨rfl, by simp [ho, Owner.holds]⟩))
  | tearDown ho =>
    exact h.owner rfl rfl rfl rfl (by simp [Owner.making]) (by simp) (by simp [ho, Owner.stopping])
      (lock_owner h rfl rfl (.inl ⟨rfl, by simp [ho, Owner.holds]⟩))
  | own ho => exact h.own ho
  | spawnThrows ho => exact h.moveOwner (by rw [ho]; rfl) (by rw [ho]; rfl) nofun nofun
  | returned hr => exact h.returned hr

theorem inv_reachable {w₀ : W → Prop} (h : (system (T := T) c w₀).Reachable s) : Inv s := by
  refine h.invariant ?_ fun _ _ _ _ hi _ hs => hi.step hs
  rintro _ ⟨w, -, rfl⟩
  exact inv_fresh w

end Steps

end DataStorage

end SensorityCollector
