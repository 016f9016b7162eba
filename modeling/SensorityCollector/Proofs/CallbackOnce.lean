import SensorityCollector.Proofs.PutAnswered

/-!
# How often a job calls its callback

The success call stands in the `try` block whose handler makes the failure call, and the handler
knows only a `Poco::Exception`. So a job whose statements throw something else calls nobody, and one
whose callback throws a `Poco::Exception` on success calls it again, with a failure that is none.
-/

namespace SensorityCollector

open Sql Transition DataStorage

variable {F κ : Type} {c : Numbers F}

/-- What the statements of a job meet first, if the tables hold these readings. -/
def Job.fault (o : Faults c) (rows : ∀ S : Sensor, List (S.Data F)) : Job F κ → Option Exn
  | put _ model _ => o.put model.length
  | get S low high _ => o.get (inRange S low high (rows S)).length

/-- One call has been made, and it is one of `k`; no failure has been reported for rows that are
committed, nor after a model. -/
structure CalledOnce (k : κ) (before after : World F κ) : Prop where
  once : ∃ call, after.calls = before.calls ++ [call] ∧ call.callback = k
  put : ∀ calls, after.calls = before.calls ++ calls → Call.put k false ∈ calls →
    after.session.database = before.session.database
  get : ∀ calls model, after.calls = before.calls ++ calls →
    ¬ [Call.get k (some model) true, Call.get k none false].Sublist calls

/-- The statements throw nothing but a `Poco::Exception`, and if they throw nothing, nor does the
callback throw one on success. -/
def Job.Tame (o : Faults c) (rows : ∀ S : Sensor, List (S.Data F)) (job : Job F κ) : Prop :=
  (∀ what, job.fault o rows ≠ some (.std what))
    ∧ (job.fault o rows = none → o.callback true ≠ some .poco)

variable [Zero F]

theorem Job.outcome_fault (o : Faults c) (rows : ∀ S : Sensor, List (S.Data F)) (job : Job F κ) :
    match job.fault o rows with
    | some e => job.outcome o rows = .error e
    | none => ∃ r, job.outcome o rows = .ok r := by
  cases job with
  | put S model callback =>
    simp only [fault, outcome]
    rcases o.put model.length with _ | e
    · exact ⟨_, rfl⟩
    · rfl
  | get S low high callback =>
    simp only [fault, outcome]
    rcases o.get (inRange S low high (rows S)).length with _ | e
    · exact ⟨_, rfl⟩
    · rfl

omit [Zero F] in
theorem CalledOnce.of_single {k : κ} {w w' : World F κ} (call : Call F κ)
    (hc : w'.calls = w.calls ++ [call]) (hk : call.callback = k)
    (hp : call = .put k false → w'.session.database = w.session.database) : CalledOnce k w w' := by
  refine ⟨⟨call, hc, hk⟩, fun calls h hmem => ?_, fun calls model h hsub => ?_⟩
  · obtain rfl : [call] = calls := List.append_cancel_left (hc.symm.trans h)
    exact hp (List.mem_singleton.1 hmem).symm
  · obtain rfl : [call] = calls := List.append_cancel_left (hc.symm.trans h)
    have := hsub.length_le
    simp at this

omit [Zero F] in
theorem CalledOnce.not_of_length {k : κ} {w w' : World F κ} (calls : List (Call F κ))
    (hc : w'.calls = w.calls ++ calls) (hl : calls.length ≠ 1) : ¬ CalledOnce k w w' := by
  rintro ⟨⟨call, hcall, -⟩, -, -⟩
  obtain rfl : calls = [call] := List.append_cancel_left (hc.symm.trans hcall)
  exact hl rfl

section Executed

variable {a : Collected F κ} {w : World F κ} {job : Job F κ} {k : κ} {o : Faults c}

/-- A job that succeeds has made the success call, and the failure call after it if that has thrown
a `Poco::Exception`. -/
theorem Job.calledOnce_of_ok (hw : Represents c a w) (hcreated : Created tables.length w)
    (hk : job.callback = some k) {rows : ∀ S : Sensor, List (S.Data F)} {call : κ → Call F κ}
    (hout : job.outcome o a.rows = .ok (rows, call)) :
    CalledOnce k w (job.execute o w).1 ↔ o.callback true ≠ some .poco := by
  have heff := job.effect_stored (o := o) (hw.stored hcreated)
  have hexe := job.execute_world (o := o) hw.idle
  simp only [hout] at heff
  obtain ⟨db, heff, -⟩ := heff
  rw [heff] at hexe
  by_cases hpoco : o.callback true = some .poco
  · refine iff_of_false (CalledOnce.not_of_length [call k, job.failed k] ?_ (by simp))
      fun h => h hpoco
    rw [hexe]
    simp [answers, hk, hpoco]
  · have hcall : (call k).callback = k := Job.outcome_callback hout k
    refine iff_of_true (CalledOnce.of_single (call k) ?_ hcall fun hfalse => ?_) hpoco
    · rw [hexe]
      simp [answers, hk, hpoco]
    · cases job with
      | put S model callback =>
        simp only [outcome] at hout
        split at hout <;> cases hout
        cases hfalse
      | get S low high callback =>
        simp only [outcome] at hout
        split at hout <;> cases hout
        cases hfalse

/-- A job that fails has made the failure call, if what was thrown is a `Poco::Exception`, or
none. -/
theorem Job.calledOnce_of_error (hw : Represents c a w) (hcreated : Created tables.length w)
    (hk : job.callback = some k) {e : Exn} (hout : job.outcome o a.rows = .error e) :
    CalledOnce k w (job.execute o w).1 ↔ ∀ what, e ≠ .std what := by
  have heff := job.effect_stored (o := o) (hw.stored hcreated)
  have hexe := job.execute_world (o := o) hw.idle
  simp only [hout] at heff
  rw [heff] at hexe
  rcases e with _ | what
  · refine iff_of_true (CalledOnce.of_single (job.failed k) ?_ (job.failed_callback k)
      fun _ => ?_) (by simp)
    · rw [hexe]
      simp [answers, hk]
    · rw [hexe]
  · refine iff_of_false (CalledOnce.not_of_length [] ?_ (by simp)) fun h => h what rfl
    rw [hexe]
    simp [answers]

theorem Job.calledOnce_iff (hw : Represents c a w) (hcreated : Created tables.length w)
    (hk : job.callback = some k) (o : Faults c) :
    CalledOnce k w (job.execute o w).1 ↔ job.Tame o a.rows := by
  have hout := job.outcome_fault o a.rows
  unfold Tame
  rcases hf : job.fault o a.rows with _ | e <;> simp only [hf] at hout
  · obtain ⟨⟨rows, call⟩, hout⟩ := hout
    rw [Job.calledOnce_of_ok hw hcreated hk hout]
    simp
  · rw [Job.calledOnce_of_error hw hcreated hk hout]
    simp

end Executed

variable {T : Type*} [DecidableEq T]

/-- When the worker has finished with a job, its callback has been called once, and with the truth,
exactly if the job met nothing that `run` does not catch and its callback nothing that it does. -/
theorem callback_once_iff {a : Collected F κ} {w : World F κ} (hw : Represents c a w)
    {es : List (Event (Job F κ) T (Faults c))} {s t : State (Job F κ) T (World F κ)}
    (h : (system (config c) (Represents c a)).Run (fun _ _ => True) (fresh w) es s) {i : ℕ}
    {o : Faults c} (hs : Step (config c) s (.run i o) t) {job : Job F κ} {rest : List (Job F κ)}
    (hj : s.jobs = job :: rest) {k : κ} (hk : job.callback = some k) :
    CalledOnce k s.world t.world
      ↔ job.Tame o (a.runs (s.finished.zip (choices es))).rows := by
  obtain ⟨hdef, -, hrep⟩ := tracks_run (tracks c) hw hw (fun _ _ => trivial) h
  have hlen : (config (κ := κ) c).definitions.length = tables.length := by simp [config]
  have hdone : s.setUpDone := by
    cases hs with
    | run hi _ _ => exact setUpDone_worker hi (by simp)
    | caught hi _ _ => exact setUpDone_worker hi (by simp)
  have hworld : t.world = (job.execute o s.world).1 := by
    cases hs with
    | run _ hj' _ =>
      rw [hj] at hj'
      cases hj'
      rfl
    | caught _ hj' _ =>
      rw [hj] at hj'
      cases hj'
      rfl
  rw [hworld]
  exact Job.calledOnce_iff hrep (hlen ▸ hdef.done hdone) hk o

/-- A callback that throws a `Poco::Exception` when it is told of success. -/
def touchy : Faults whole :=
  { Faults.calm whole with callback := fun success => if success then some .poco else none }

/-- A reading is put with such a callback: it is told of a success, and then of a failure, of the
rows that are in the table. -/
theorem callback_repeats : ¬ ∀ (job : Job ℤ ℕ) (o : Faults whole)
    (es : List (Event (Job ℤ ℕ) Unit (Faults whole))) (s t : State (Job ℤ ℕ) Unit (World ℤ ℕ)),
    (system (config whole) (Represents whole .blank)).Run (fun _ _ => True) (fresh .blank) es s →
      Step (config whole) s (.run 0 o) t → s.jobs = [job] → job.callback = some 0 →
      CalledOnce 0 s.world t.world := by
  intro h
  obtain ⟨es, -, hr⟩ := exists_front (config whole)
    (Represents whole (.blank : Collected ℤ ℕ)) () .blank (.put .temperature [⟨20, 21, 8⟩] (some 0))
  have hs := h _ touchy es _ _ hr (run_step (k := 0) touchy rfl rfl) rfl rfl
  refine CalledOnce.not_of_length [.put 0 true, .put 0 false] ?_ (by simp) hs
  rfl

theorem callback_once_calm : ∃ s t : State (Job ℤ ℕ) Unit (World ℤ ℕ),
    s.world.calls = [] ∧ t.world.calls = [.put 0 true] ∧ CalledOnce 0 s.world t.world := by
  obtain ⟨es, hes, hr⟩ := exists_front (config whole)
    (Represents whole (.blank : Collected ℤ ℕ)) () .blank (.put .temperature [⟨20, 21, 8⟩] (some 0))
  have hiff := callback_once_iff (k := 0) represents_blank hr
    (run_step (k := 0) (.calm whole) rfl rfl) rfl rfl
  refine ⟨_, _, rfl, ?_, hiff.2 ⟨?_, ?_⟩⟩
  · rfl
  · intro what
    simp [Job.fault, Faults.put, Faults.calm, firstFault]
  · simp [Faults.calm]

end SensorityCollector
