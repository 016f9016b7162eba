import SensorityCollector.Fifo
import SensorityCollector.Proofs.StorageInv

/-!
# The storage is a queue

With its threads forgotten, the storage is a `Fifo`: `emplace` accepts a job, taking up the front
takes it, and `pop` removes what has been taken already. The worker works on the front from
taking it up to popping it, and an exception that leaves the job takes the same way to `pop` as a
return.
-/

namespace SensorityCollector

open Transition

namespace DataStorage

variable {J T W O : Type*}

/-- What a worker does with the front of the queue. -/
inductive Phase
  | other
  | running
  | popping
  deriving DecidableEq

def Loop.phase : Loop J → Phase
  | .running _ => .running
  | .pop => .popping
  | _ => .other

theorem Loop.holds_of_phase {w : Loop J} (h : w.phase ≠ .other) : w.holds = true := by
  cases w <;> simp_all [Loop.phase, Loop.holds]

theorem Loop.alive_of_phase {w : Loop J} (h : w.phase ≠ .other) : w.alive = true := by
  cases w <;> simp_all [Loop.phase, Loop.alive]

/-- The queue without the job that has been taken up. -/
def State.waiting (s : State J T W) : List J :=
  match s.mutex with
  | some (.worker k) => if (s.workers k).phase = .other then s.jobs else s.jobs.tail
  | _ => s.jobs

/-- What one step does to the queue and to who works on its front. -/
inductive Effect (s s' : State J T W) : Prop
  | quiet : (∀ k, (s'.workers k).phase = (s.workers k).phase) → s'.jobs = s.jobs →
      s'.accepted = s.accepted → s'.started = s.started → s'.finished = s.finished → Effect s s'
  | accept (job : J) : (∀ k, (s.workers k).phase = .other) →
      (∀ k, (s'.workers k).phase = .other) → s'.jobs = s.jobs ++ [job] →
      s'.accepted = s.accepted ++ [job] → s'.started = s.started → s'.finished = s.finished →
      Effect s s'
  | take (k : ℕ) (job : J) (rest : List J) : (∀ j, (s.workers j).phase = .other) →
      (s'.workers k).phase = .running → s.jobs = job :: rest → s'.jobs = s.jobs →
      s'.accepted = s.accepted → s'.started = s.started ++ [job] → s'.finished = s.finished →
      Effect s s'
  | run (k : ℕ) (job : J) (rest : List J) : (s.workers k).phase = .running →
      (s'.workers k).phase = .popping → s.jobs = job :: rest → s'.jobs = s.jobs →
      s'.accepted = s.accepted → s'.started = s.started → s'.finished = s.finished ++ [job] →
      Effect s s'
  | pop (k : ℕ) : (s.workers k).phase = .popping → (∀ j, (s'.workers j).phase = .other) →
      s'.jobs = s.jobs.tail → s'.accepted = s.accepted → s'.started = s.started →
      s'.finished = s.finished → Effect s s'

section

variable {c : Config J W O} {s s' : State J T W}

theorem Inv.phase_other (h : Inv s) {th : Thread T} (hm : s.mutex = some th) {k : ℕ}
    (hk : th ≠ .worker k) : (s.workers k).phase = .other := by
  by_contra hp
  have := (h.lock (.worker k)).1 (Loop.holds_of_phase hp)
  rw [hm] at this
  exact hk (by simpa using this)

theorem Inv.phase_other_of (h : Inv s) {j k : ℕ} (hk : (s.workers k).holds = true) (hj : j ≠ k) :
    (s.workers j).phase = .other :=
  h.phase_other ((h.lock (.worker k)).1 hk) (by simpa using fun e => hj e.symm)

theorem waiting_eq (hk : ∀ k, (s.workers k).phase = .other) :
    s.waiting = s.jobs := by
  unfold State.waiting
  split
  · simp [hk]
  · rfl

theorem Inv.waiting_busy (h : Inv s) {k : ℕ} (hk : (s.workers k).phase ≠ .other) :
    s.waiting = s.jobs.tail := by
  simp [State.waiting, (h.lock (.worker k)).1 (Loop.holds_of_phase hk), hk]

theorem phase_update {f : ℕ → Loop J} {k : ℕ} {w : Loop J} (h : w.phase = (f k).phase) (j : ℕ) :
    (Function.update f k w j).phase = (f j).phase := by
  by_cases hj : j = k
  · subst hj
    simpa using h
  · simp [hj]

theorem phase_notifyOne (hs : NotifyOne s s') (k : ℕ) :
    (s'.workers k).phase = (s.workers k).phase := by
  cases hs with
  | lost _ => rfl
  | wakes hj => exact phase_update (by simp [hj, Loop.phase]) k

theorem loop_effect (h : Inv s) {k : ℕ} (hs : LoopStep k s s') : Effect s s' := by
  cases hs with
  | head hk =>
    refine .quiet (phase_update ?_) rfl rfl rfl rfl
    split <;> simp [hk, Loop.phase]
  | @front job rest hk hj =>
    refine .take k job rest (fun j => ?_) (by simp [State.setWorker, Loop.phase]) hj rfl rfl rfl rfl
    by_cases he : j = k
    · simp [he, hk, Loop.phase]
    · exact h.phase_other_of (by simp [hk, Loop.holds]) he
  | pop hk =>
    refine .pop k (by simp [hk, Loop.phase]) (fun j => ?_) rfl rfl rfl rfl
    by_cases he : j = k
    · simp [State.setWorker, he, Loop.phase]
    · simp [State.setWorker, he, h.phase_other_of (j := j) (k := k) (by simp [hk, Loop.holds]) he]
  | _ => exact .quiet (phase_update (by simp_all [Loop.phase])) rfl rfl rfl rfl

theorem own_effect (h : Inv s) (hs : OwnerStep c s s') : Effect s s' := by
  cases hs with
  | spawn ho =>
    refine .quiet (phase_update ?_) rfl rfl rfl rfl
    simp [h.unborn s.spawned le_rfl, Loop.phase]
  | notify _ hn =>
    obtain ⟨-, -, hj, -, -, -, ha, hst, hf⟩ := notified hn
    exact .quiet (fun k => phase_notifyOne hn k) hj ha hst hf
  | _ => exact .quiet (fun _ => rfl) rfl rfl rfl rfl

theorem accepted_mono (he : Effect s s') : s.accepted <+: s'.accepted := by
  cases he with
  | accept job _ _ _ ha _ _ => exact ⟨[job], ha.symm⟩
  | quiet _ _ ha _ _ => rw [ha]
  | take _ _ _ _ _ _ _ ha _ _ => rw [ha]
  | run _ _ _ _ _ _ _ ha _ _ => rw [ha]
  | pop _ _ _ _ ha _ _ => rw [ha]

variable [DecidableEq T]

theorem step_effect {e : Event J T O} (h : Inv s) (hs : Step c s e s') : Effect s s' := by
  cases hs with
  | @process _ t _ _ ht hp =>
    cases hp with
    | @emplace job =>
      have hm := (h.lock (.producer t)).1 (by simp [State.holds, ht, Process.holds])
      have hk := fun k => h.phase_other hm (k := k) (by simp)
      exact .accept job hk hk rfl rfl rfl rfl
    | notify hn =>
      obtain ⟨-, -, hj, -, -, -, ha, hst, hf⟩ := notified hn
      exact .quiet (fun k => phase_notifyOne hn k) hj ha hst hf
    | _ => exact .quiet (fun _ => rfl) rfl rfl rfl rfl
  | work hw => exact loop_effect h hw
  | wake hk => exact .quiet (phase_update (by simp [hk, Loop.phase])) rfl rfl rfl rfl
  | @run k o job rest hk hj _ =>
    exact .run k job rest (by simp [hk, Loop.phase]) (by simp [State.setWorker, Loop.phase]) hj
      rfl rfl rfl rfl
  | @caught k o job rest hk hj _ =>
    exact .run k job rest (by simp [hk, Loop.phase]) (by simp [State.setWorker, Loop.phase]) hj
      rfl rfl rfl rfl
  | reenter hk => exact .quiet (phase_update (by simp [hk, Loop.phase])) rfl rfl rfl rfl
  | nested hk hp => exact absurd hp (h.not_nested hk)
  | own ho => exact own_effect h ho
  | returned hr => cases hr <;> exact .quiet (fun _ => rfl) rfl rfl rfl rfl
  | _ => exact .quiet (fun _ => rfl) rfl rfl rfl rfl

theorem run_accepted {w₀ : W → Prop} {C : State J T W → Event J T O → Prop}
    {es : List (Event J T O)} (h : (system (T := T) c w₀).Reachable s)
    (hr : (system c w₀).Run C s es s') : s.accepted <+: s'.accepted := by
  induction hr with
  | nil => exact List.prefix_rfl
  | snoc hr' _ hst ih =>
    have hv := (hr'.mono fun _ _ _ => trivial).reachableBy h
    exact ih.trans (accepted_mono (step_effect (inv_reachable hv) hst))

/-- The storage with its threads forgotten. -/
def AsFifo (s : State J T W) (q : Fifo J) : Prop :=
  q.waiting = s.waiting ∧ q.accepted = s.accepted ∧ q.taken = s.started

theorem simulates (w₀ : W → Prop) :
    Simulation (system (T := T) c w₀) (fun _ _ => True) (Fifo.system J) AsFifo where
  init := by
    rintro _ ⟨w, -, rfl⟩
    exact ⟨⟨[], [], []⟩, rfl, rfl, rfl, rfl⟩
  step := by
    rintro s e s' q hr ⟨hw, ha, ht⟩ - hs
    have h := inv_reachable hr
    have h' := h.step hs
    cases step_effect h hs with
    | quiet hk hj hac hst _ =>
      refine .inl ⟨?_, ha.trans hac.symm, ht.trans hst.symm⟩
      rw [hw]
      by_cases hb : ∀ k, (s.workers k).phase = .other
      · rw [waiting_eq hb, waiting_eq fun k => (hk k).trans (hb k), hj]
      · push Not at hb
        obtain ⟨k, hb⟩ := hb
        rw [h.waiting_busy hb, h'.waiting_busy (by rwa [hk k]), hj]
    | accept job hb hb' hj hac hst _ =>
      refine .inr ⟨.accept job, _, .accept, ?_, ?_, ht.trans hst.symm⟩
      · rw [waiting_eq hb', hj, ← waiting_eq hb, ← hw]
      · simp [ha, hac]
    | take k job rest hb hk hj hj' hac hst _ =>
      have hq : q.waiting = job :: rest := by rw [hw, waiting_eq hb, hj]
      refine .inr ⟨.take job, _, .take hq, ?_, ha.trans hac.symm, ?_⟩
      · simp [h'.waiting_busy (k := k) (by simp [hk]), hj', hj]
      · simp [ht, hst]
    | run k job rest hk hk' hj hj' hac hst _ =>
      refine .inl ⟨?_, ha.trans hac.symm, ht.trans hst.symm⟩
      rw [hw, h.waiting_busy (k := k) (by simp [hk]), h'.waiting_busy (k := k) (by simp [hk']), hj']
    | pop k hk hb hj hac hst _ =>
      refine .inl ⟨?_, ha.trans hac.symm, ht.trans hst.symm⟩
      rw [hw, h.waiting_busy (k := k) (by simp [hk]), waiting_eq hb, hj]

/-- What has been taken up and what waits, in this order, is what has been accepted. -/
theorem accepted_eq {w₀ : W → Prop} (h : (system (T := T) c w₀).Reachable s) :
    s.accepted = s.started ++ s.waiting := by
  obtain ⟨q, hq, hw, ha, ht⟩ := (simulates w₀).reachable h
  rw [← hw, ← ha, ← ht]
  exact Fifo.accepted_eq hq

/-- The worker works on the last job taken up, which stays at the front until it is popped. -/
inductive Front (s : State J T W) : Prop
  | idle : (∀ k, (s.workers k).phase = .other) → s.started = s.finished → Front s
  | running (k : ℕ) (job : J) (rest : List J) : (s.workers k).phase = .running →
      s.jobs = job :: rest → s.started = s.finished ++ [job] → Front s
  | popping (k : ℕ) (job : J) (rest : List J) : (s.workers k).phase = .popping →
      s.jobs = job :: rest → s.started = s.finished → s.started.getLast? = some job → Front s

theorem Front.step {e : Event J T O} (h : Inv s) (hf : Front s) (hs : Step c s e s') :
    Front s' := by
  cases step_effect h hs with
  | quiet hk hj _ hst hfi =>
    cases hf with
    | idle hb hq => exact .idle (fun k => (hk k).trans (hb k)) (by rw [hst, hfi, hq])
    | running k job rest hp hq hr =>
      exact .running k job rest ((hk k).trans hp) (hj.trans hq) (by rw [hst, hfi, hr])
    | popping k job rest hp hq hr hl =>
      exact .popping k job rest ((hk k).trans hp) (hj.trans hq) (by rw [hst, hfi, hr])
        (by rw [hst, hl])
  | accept job hb hb' hj _ hst hfi =>
    cases hf with
    | idle _ hq => exact .idle hb' (by rw [hst, hfi, hq])
    | running k _ _ hp _ _ => simp [hb k] at hp
    | popping k _ _ hp _ _ _ => simp [hb k] at hp
  | take k job rest hb hk hj hj' _ hst hfi =>
    cases hf with
    | idle _ hq => exact .running k job rest hk (hj'.trans hj) (by rw [hst, hfi, hq])
    | running j _ _ hp _ _ => simp [hb j] at hp
    | popping j _ _ hp _ _ _ => simp [hb j] at hp
  | run k job rest hk hk' hj hj' _ hst hfi =>
    cases hf with
    | idle hb _ => simp [hb k] at hk
    | running _ job' rest' _ hq hr =>
      obtain ⟨rfl, rfl⟩ : job = job' ∧ rest = rest' := by simpa [hj] using hq
      exact .popping k job rest hk' (hj'.trans hj) (by rw [hst, hfi, hr]) (by simp [hst, hr])
    | popping j _ _ hp _ _ _ =>
      have hjk := h.alive_unique (Loop.alive_of_phase (w := s.workers j) (by simp [hp]))
        (Loop.alive_of_phase (w := s.workers k) (by simp [hk]))
      simp [hjk, hk] at hp
  | pop k hk hb hj _ hst hfi =>
    cases hf with
    | idle hb _ => simp [hb k] at hk
    | running j _ _ hp _ _ =>
      have hjk := h.alive_unique (Loop.alive_of_phase (w := s.workers j) (by simp [hp]))
        (Loop.alive_of_phase (w := s.workers k) (by simp [hk]))
      simp [hjk, hk] at hp
    | popping _ _ _ _ _ hr _ => exact .idle hb (by rw [hst, hfi, hr])

theorem front_reachable {w₀ : W → Prop} (h : (system (T := T) c w₀).Reachable s) : Front s := by
  refine h.invariant ?_ fun _ _ _ hr hf _ hs => hf.step (inv_reachable hr) hs
  rintro _ ⟨w, -, rfl⟩
  exact .idle (fun _ => rfl) rfl

theorem finished_initial {w₀ : W → Prop} (h : (system (T := T) c w₀).Reachable s) :
    s.finished <+: s.accepted := by
  have hst : s.finished <+: s.started := by
    cases front_reachable h with
    | idle _ hq => rw [hq]
    | running _ job _ _ _ hq => exact ⟨[job], hq.symm⟩
    | popping _ _ _ _ _ hq _ => rw [hq]
  exact hst.trans ⟨s.waiting, (accepted_eq h).symm⟩

theorem run_process (c : Config J W O) (w₀ : W → Prop) (hm : s.mutex = none) {t : T}
    (ht : s.producers t = none) (hw : ∀ k, s.workers k ≠ .waiting) (job : J) :
    (system c w₀).Run (fun _ _ => True) s
      ([.call t job] ++ [.process t] ++ [.process t] ++ [.process t] ++ [.process t])
      { s with jobs := s.jobs ++ [job], accepted := s.accepted ++ [job] } := by
  have hp : ∀ (u : State J T W) (p : Option (Process J)), (u.setProducer t p).producers t = p := by
    simp [State.setProducer]
  have hc : Step c s (.call t job) (s.setProducer t (some (.lock job))) := .call ht
  have hr : (system c w₀).Run (fun _ _ => True) s [.call t job] _ := .single trivial hc
  have hn := (((hr.snoc trivial (.process (hp _ _) (.lock hm))).snoc trivial
    (.process (hp _ _) .emplace)).snoc trivial (.process (hp _ _) .unlock)).snoc trivial
      (.process (hp _ _) (.notify (.lost hw)))
  convert hn using 1
  simp [State.setProducer, ← ht, hm]

theorem reachable_process {w₀ : W → Prop} (h : (system (T := T) c w₀).Reachable s)
    (hm : s.mutex = none) {t : T} (ht : s.producers t = none)
    (hw : ∀ k, s.workers k ≠ .waiting) (job : J) :
    (system (T := T) c w₀).Reachable
      { s with jobs := s.jobs ++ [job], accepted := s.accepted ++ [job] } :=
  (run_process c w₀ hm ht hw job).reachableBy h

theorem running_front {w₀ : W → Prop} (h : (system (T := T) c w₀).Reachable s) {k : ℕ}
    (hk : (s.workers k).phase = .running) :
    ∃ job, s.jobs = job :: s.waiting ∧ s.started = s.finished ++ [job] := by
  have hi := inv_reachable h
  have hw := hi.waiting_busy (k := k) (by simp [hk])
  cases front_reachable h with
  | idle hb _ => simp [hb k] at hk
  | running _ job rest _ hj hst => exact ⟨job, by simp [hw, hj], hst⟩
  | popping j _ _ hp _ _ _ =>
    have hjk := hi.alive_unique (Loop.alive_of_phase (w := s.workers j) (by simp [hp]))
      (Loop.alive_of_phase (w := s.workers k) (by simp [hk]))
    simp [hjk, hk] at hp

theorem popping_front {w₀ : W → Prop} (h : (system (T := T) c w₀).Reachable s) {k : ℕ}
    (hk : (s.workers k).phase = .popping) :
    ∃ job, s.jobs = job :: s.waiting ∧ s.started = s.finished ∧ s.started.getLast? = some job := by
  have hi := inv_reachable h
  have hw := hi.waiting_busy (k := k) (by simp [hk])
  cases front_reachable h with
  | idle hb _ => simp [hb k] at hk
  | running j _ _ hp _ _ =>
    have hjk := hi.alive_unique (Loop.alive_of_phase (w := s.workers j) (by simp [hp]))
      (Loop.alive_of_phase (w := s.workers k) (by simp [hk]))
    simp [hjk, hk] at hp
  | popping _ job rest _ hj hst hl => exact ⟨job, by simp [hw, hj], hst, hl⟩

theorem idle_front {w₀ : W → Prop} (h : (system (T := T) c w₀).Reachable s)
    (hk : ∀ k, (s.workers k).phase = .other) : s.waiting = s.jobs ∧ s.started = s.finished := by
  refine ⟨waiting_eq hk, ?_⟩
  cases front_reachable h with
  | idle _ hq => exact hq
  | running k _ _ hp _ _ => simp [hk k] at hp
  | popping k _ _ hp _ _ _ => simp [hk k] at hp

/-- Whatever a job throws, the worker comes to pop it. -/
theorem run_step {k : ℕ} {job : J} {rest : List J} (o : O) (hk : s.workers k = .running none)
    (hj : s.jobs = job :: rest) :
    Step c s (.run k o) ({ s with world := (c.run job o s.world).1,
                                  finished := s.finished ++ [job] }.setWorker k .pop) := by
  rcases ho : (c.run job o s.world).2
  · exact .run hk hj ho
  · exact .caught hk hj ho

theorem run_then_pop {k : ℕ} {job : J} (o : O) (hk : s.workers k = .running none)
    (hj : s.jobs = job :: s.waiting) :
    ∃ s₁ s₂, Step c s (.run k o) s₁ ∧ Step c s₁ (.work k) s₂ ∧ s₂.workers k = .drain ∧
      s₂.jobs = s.waiting ∧ s₂.finished = s.finished ++ [job] ∧ s₂.started = s.started :=
  ⟨_, _, run_step o hk hj, .work (.pop (by simp [State.setWorker])), by simp [State.setWorker],
    by simp [State.setWorker, hj], rfl, rfl⟩

/-- In every run, over any number of lifetimes and whatever the jobs throw: the jobs are run in
the order they were accepted in, none twice, one at a time, none during the return of
`tearDown()`. -/
theorem storage_fifo {w₀ : W → Prop} (h : (system (T := T) c w₀).Reachable s) :
    s.started <+: s.accepted ∧ (s.accepted.Nodup → s.started.Nodup)
      ∧ s.accepted = s.started ++ s.waiting
      ∧ ((∀ k, (s.workers k).phase = .other) → s.waiting = s.jobs ∧ s.started = s.finished)
      ∧ (∀ k, (s.workers k).phase = .running →
          ∃ job, s.jobs = job :: s.waiting ∧ s.started = s.finished ++ [job])
      ∧ (∀ k, (s.workers k).phase = .popping →
          ∃ job, s.jobs = job :: s.waiting ∧ s.started = s.finished
            ∧ s.started.getLast? = some job)
      ∧ (∀ j k, (s.workers j).phase = .running → (s.workers k).phase = .running → j = k)
      ∧ (∀ k (o : O), s.workers k = .running none → ∃ s₁ s₂ job, s.jobs = job :: s.waiting
          ∧ Step c s (.run k o) s₁ ∧ Step c s₁ (.work k) s₂ ∧ s₂.workers k = .drain
          ∧ s₂.jobs = s.waiting ∧ s₂.finished = s.finished ++ [job] ∧ s₂.started = s.started)
      ∧ ∀ s', Step c s (.returned : Event J T O) s' → ∀ k, (s.workers k).phase = .other := by
  have hi := inv_reachable h
  obtain ⟨q, hq, -, ha, ht⟩ := (simulates w₀).reachable h
  rw [← ha, ← ht]
  refine ⟨Fifo.taken_initial hq, Fifo.taken_nodup hq, ha ▸ ht ▸ accepted_eq h,
    ht ▸ idle_front h, ht ▸ fun k => running_front h,
    ht ▸ fun k => popping_front h, fun j k hj hk => ?_, fun k o hk => ?_, fun s' hs k => ?_⟩
  · exact hi.alive_unique (Loop.alive_of_phase (by simp [hj])) (Loop.alive_of_phase (by simp [hk]))
  · obtain ⟨job, hj, -⟩ := running_front h (k := k) (by simp [hk, Loop.phase])
    obtain ⟨s₁, s₂, h1, h2, h3, h4, h5, h6⟩ := run_then_pop (c := c) o hk hj
    exact ⟨s₁, s₂, job, hj, h1, h2, h3, h4, h5, h6.trans ht.symm⟩
  · cases hs with
    | returned hr =>
      by_contra hp
      have := hi.dead_of_returned hr k
      simp [Loop.alive_of_phase hp] at this

end

/-- A storage whose jobs are numbers, of which `0` throws, without tables. -/
def plain : Config ℕ Unit Unit where
  run job _ w := (w, job == 0)
  definitions := []

def plainReady : State ℕ Unit Unit :=
  { fresh () with active := true, thread := some 0, spawned := 1 }.setWorker 0 .head

theorem plain_setUp : (system (T := Unit) plain fun _ => True).Reachable plainReady :=
  have h₀ : (system (T := Unit) plain fun _ => True).Reachable (fresh ()) :=
    .init ⟨(), trivial, rfl⟩
  (((h₀.next (.setUp rfl)).next (.own (.accept rfl rfl))).next
    (.own (.activate rfl rfl))).next (.own (.spawn rfl))

theorem plain_awake (k : ℕ) : plainReady.workers k ≠ .waiting := by
  by_cases hk : k = 0 <;> simp [plainReady, fresh, State.setWorker, hk]

/-- The storage with its worker running the job `0`, on which a second one waits. -/
theorem plain_running : ∃ s : State ℕ Unit Unit, (system plain fun _ => True).Reachable s
    ∧ s.workers 0 = .running none ∧ s.accepted = [0, 1] ∧ s.jobs = [0, 1] := by
  have h₁ := reachable_process plain_setUp rfl (t := ()) rfl plain_awake 0
  have h₂ := reachable_process h₁ rfl (t := ()) rfl plain_awake 1
  have h₃ := ((((h₂.next (.work (k := 0) (.head rfl))).next (.work (k := 0) (.lock rfl rfl))).next
    (.work (k := 0) (.ready rfl (.inr (by simp [State.setWorker, plainReady, fresh]))))).next
      (.work (k := 0) (.stay rfl rfl))).next (.work (k := 0) (.front rfl rfl))
  exact ⟨_, h₃, rfl, rfl, rfl⟩

/-- The worker is on the job `0`, which throws: it has the one behind it left to run. -/
theorem storage_fifo_plain : ∃ s : State ℕ Unit Unit, s.workers 0 = .running none
    ∧ s.accepted = [0, 1] ∧ s.started <+: s.accepted
    ∧ ∃ job, s.jobs = job :: s.waiting ∧ s.started = s.finished ++ [job] := by
  obtain ⟨s, hs, hw, ha, -⟩ := plain_running
  obtain ⟨hp, -, -, -, hr, -⟩ := storage_fifo hs
  exact ⟨s, hw, ha, hp, hr 0 (by rw [hw]; rfl)⟩

end DataStorage

end SensorityCollector
