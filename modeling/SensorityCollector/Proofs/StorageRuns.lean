import SensorityCollector.Proofs.StorageCalls
import SensorityCollector.Proofs.StorageWorld

/-!
# Every sequence of jobs can be run

A storage that is set up, and given one job at a time, runs any jobs in any order under whatever
their environment chooses: what is proved of drained runs is not proved of nothing.
-/

namespace SensorityCollector

open Transition

namespace DataStorage

variable {J T W O : Type*} [DecidableEq T] (c : Config J W O) (w₀ : W → Prop)

/-- The worker is at the head of its loop with all jobs run, and nobody else is about. -/
def rested (w : W) (jobs : List J) : State J T W :=
  { fresh w with active := true, thread := some 0, spawned := 1, accepted := jobs,
                 started := jobs, finished := jobs }.setWorker 0 .head

omit [DecidableEq T] in
theorem rested_awake (w : W) (jobs : List J) (k : ℕ) :
    (rested w jobs : State J T W).workers k ≠ .waiting := by
  by_cases hk : k = 0 <;> simp [rested, fresh, State.setWorker, hk]

def Config.define (c : Config J W O) (w : W) : W := c.definitions.foldl (fun w f => f w) w

theorem creating_run (w : W) (n : ℕ) (hn : n ≤ c.definitions.length) :
    ∃ es : List (Event J T O), choices es = [] ∧ (∀ t, es.filterMap (Event.calledBy t) = [])
      ∧ (system c w₀).Run (fun _ _ => True) (fresh w) es
        { fresh ((c.definitions.take n).foldl (fun w f => f w) w) with owner := .creating n } := by
  induction n with
  | zero =>
    have hr : (system c w₀).Run (fun _ _ => True) (fresh w : State J T W) [.setUp] _ :=
      .single trivial (.setUp rfl)
    exact ⟨_, rfl, fun _ => rfl, hr.snoc trivial (.own (.accept rfl rfl))⟩
  | succ n ih =>
    obtain ⟨es, hes, hcs, hr⟩ := ih (by omega)
    have hf : c.definitions[n]? = some c.definitions[n] := List.getElem?_eq_getElem hn
    refine ⟨es ++ [.own], by simpa [choices, Event.choice] using hes,
      fun t => by simpa [Event.calledBy] using hcs t, ?_⟩
    rw [List.take_add_one, hf, List.foldl_append]
    exact hr.snoc trivial (.own (.create rfl hf))

theorem setUp_run (w : W) :
    ∃ es : List (Event J T O), choices es = [] ∧ (∀ t, es.filterMap (Event.calledBy t) = [])
      ∧ (system c w₀).Run (fun _ _ => True) (fresh w) es (rested (c.define w) []) := by
  obtain ⟨es, hes, hcs, hr⟩ := creating_run (T := T) c w₀ w _ le_rfl
  rw [List.take_length] at hr
  refine ⟨es ++ [.own] ++ [.own], by simpa [choices, Event.choice] using hes,
    fun t => by simpa [Event.calledBy] using hcs t, ?_⟩
  exact (hr.snoc trivial (.own (.activate rfl (by simp)))).snoc trivial (.own (.spawn rfl))

/-- The worker has taken up the only job there is. -/
def fronted (w : W) (jobs : List J) (job : J) : State J T W :=
  { fresh w with active := true, mutex := some (.worker 0), jobs := [job], thread := some 0,
                 spawned := 1, accepted := jobs ++ [job], started := jobs ++ [job],
                 finished := jobs }.setWorker 0 (.running none)

theorem front_run (t : T) (w : W) (jobs : List J) (job : J) :
    ∃ es : List (Event J T O), choices es = [] ∧ es.filterMap (Event.calledBy t) = [job]
      ∧ (system c w₀).Run (fun _ _ => True) (rested w jobs) es (fronted w jobs job) := by
  have hp := run_process c w₀ (s := rested w jobs) rfl (t := t) rfl (rested_awake w jobs) job
  have hf := ((((hp.snoc trivial (.work (k := 0) (.head rfl))).snoc trivial
    (.work (k := 0) (.lock rfl rfl))).snoc trivial
      (.work (k := 0) (.ready rfl (.inr (by simp [State.setWorker, rested, fresh]))))).snoc trivial
        (.work (k := 0) (.stay rfl rfl))).snoc trivial (.work (k := 0) (.front rfl rfl))
  refine ⟨[.call t job, .process t, .process t, .process t, .process t, .work 0, .work 0, .work 0,
    .work 0, .work 0], rfl, by simp [Event.calledBy], ?_⟩
  convert hf using 1
  · simp
  · simp [rested, fronted, State.setWorker, fresh]

theorem job_run (t : T) (w : W) (jobs : List J) (job : J) (o : O) :
    ∃ es : List (Event J T O), choices es = [o] ∧ es.filterMap (Event.calledBy t) = [job]
      ∧ (system c w₀).Run (fun _ _ => True) (rested w jobs) es
        (rested (c.run job o w).1 (jobs ++ [job])) := by
  obtain ⟨es, hes, hcs, hf⟩ := front_run (T := T) c w₀ t w jobs job
  have hr := ((hf.snoc trivial (run_step (k := 0) o rfl rfl)).snoc trivial
    (.work (k := 0) (.pop rfl))).snoc trivial (.work (k := 0) (.drained rfl rfl))
  refine ⟨es ++ [.run 0 o] ++ [.work 0] ++ [.work 0], ?_, ?_, ?_⟩
  · rw [choices_append, choices_append, choices_append, hes]
    rfl
  · simp [hcs, Event.calledBy]
  · convert hr using 1
    simp [rested, fronted, State.setWorker, fresh]

theorem jobs_run (t : T) (w : W) (done : List J) (jobs : List (J × O)) :
    ∃ es : List (Event J T O), choices es = jobs.map Prod.snd
      ∧ es.filterMap (Event.calledBy t) = jobs.map Prod.fst
      ∧ (system c w₀).Run (fun _ _ => True) (rested w done) es
        (rested (replay c w jobs) (done ++ jobs.map Prod.fst)) := by
  induction jobs using List.reverseRecOn with
  | nil => exact ⟨[], rfl, rfl, by simpa using .nil _⟩
  | append_singleton jobs j ih =>
    obtain ⟨es, hes, hcs, hr⟩ := ih
    obtain ⟨fs, hfs, hcf, hj⟩ :=
      job_run c w₀ t (replay c w jobs) (done ++ jobs.map Prod.fst) j.1 j.2
    refine ⟨es ++ fs, by rw [choices_append, hes, hfs, List.map_append]; rfl,
      by rw [List.filterMap_append, hcs, hcf, List.map_append]; rfl, ?_⟩
    rw [replay, List.foldl_append, List.map_append, ← List.append_assoc]
    exact hr.append hj

/-- Whatever is put first into the storage, there is a run in which the worker comes to run it. -/
theorem exists_front (t : T) (w : W) (job : J) :
    ∃ es : List (Event J T O), choices es = []
      ∧ (system c w₀).Run (fun _ _ => True) (fresh w) es (fronted (c.define w) [] job) := by
  obtain ⟨es, hes, -, hr⟩ := setUp_run (T := T) c w₀ w
  obtain ⟨fs, hfs, -, hf⟩ := front_run (T := T) c w₀ t (c.define w) [] job
  exact ⟨es ++ fs, by rw [choices_append, hes, hfs]; rfl, hr.append hf⟩

/-- Whatever one thread puts into the storage, and whatever the environment chooses for each job,
there is a run in which it is put in that order and the worker comes to rest on it. -/
theorem exists_rested (t : T) (w : W) (jobs : List (J × O)) :
    ∃ es : List (Event J T O), choices es = jobs.map Prod.snd
      ∧ es.filterMap (Event.calledBy t) = jobs.map Prod.fst
      ∧ (system c w₀).Run (fun _ _ => True) (fresh w) es
        (rested (replay c (c.define w) jobs) (jobs.map Prod.fst)) := by
  obtain ⟨es, hes, hcs, hr⟩ := setUp_run (T := T) c w₀ w
  obtain ⟨fs, hfs, hcf, hj⟩ := jobs_run (T := T) c w₀ t (c.define w) [] jobs
  exact ⟨es ++ fs, by rw [choices_append, hes, hfs]; rfl,
    by rw [List.filterMap_append, hcs, hcf]; rfl, hr.append hj⟩

/-- Whatever is put into the storage, and whatever the environment chooses for each job, there is a
run at the end of which all of it has been run in that order. -/
theorem exists_run (t : T) (w : W) (jobs : List (J × O)) :
    ∃ (es : List (Event J T O)) (s : State J T W),
      (system c w₀).Run (fun _ _ => True) (fresh w) es s ∧ choices es = jobs.map Prod.snd
        ∧ s.accepted = jobs.map Prod.fst ∧ s.finished = s.accepted ∧ s.active = true
        ∧ s.world = replay c (c.define w) jobs := by
  obtain ⟨es, hes, -, hr⟩ := exists_rested c w₀ t w jobs
  exact ⟨es, _, hr, hes, rfl, rfl, rfl, rfl⟩

end DataStorage

end SensorityCollector
