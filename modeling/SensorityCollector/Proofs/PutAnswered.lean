import SensorityCollector.Proofs.CollectedRefines
import SensorityCollector.Proofs.StorageRuns

/-!
# Whether a put is answered

`put` moves its callback into the job before it knows whether there will be one. When the input
does not parse, the callback is gone with the arguments of `makePutJob`, and the `catch` block has
an empty one to call.
-/

namespace SensorityCollector

open Sql Transition DataStorage

variable {V F κ : Type} {c : Numbers F} [Zero F]

def Call.callback : Call F κ → κ
  | .put k _ | .get k _ _ => k

namespace DataAccessor

/-- `put` throws nothing, hands over a job exactly if the input is an array, and calls nobody. -/
theorem put_apply (p : Platform V F) (S : Sensor) (clock : ℕ → Int64) (input : List UInt8)
    (callback : Option κ) (fault : Option Exn) (e : Effects F κ) :
    put p S clock input callback fault e = .ok ⟨⟩ (match p.parse input with
      | some (.array items) => e.process (.put S
          (TypedDataModel.parseItems p S.accessor clock items S.accessor.blank 0 []) callback)
      | _ => e) := by
  unfold put move catchStd makePutJob TypedDataModel.parseArray
  cases p.parse input with
  | none => rfl
  | some var => cases var <;> rfl

theorem effects_put (p : Platform V F) (S : Sensor) (clock : ℕ → Int64) (input : List UInt8)
    (callback : Option κ) (fault : Option Exn) :
    Effects.of (put p S clock input callback fault) = match p.parse input with
      | some (.array items) => ⟨[.put S
          (TypedDataModel.parseItems p S.accessor clock items S.accessor.blank 0 []) callback], []⟩
      | _ => ⟨[], []⟩ := by
  unfold Effects.of
  rw [put_apply]
  cases p.parse input with
  | none => rfl
  | some var => cases var <;> rfl

end DataAccessor

omit [Zero F] in
theorem Job.failed_callback (job : Job F κ) (k : κ) : (job.failed k).callback = k := by
  cases job <;> rfl

theorem Job.outcome_callback {job : Job F κ} {o : Faults c}
    {rows rows' : ∀ S : Sensor, List (S.Data F)}
    {call : κ → Call F κ} (h : job.outcome o rows = .ok (rows', call)) (k : κ) :
    (call k).callback = k := by
  cases job with
  | put S model callback =>
    simp only [outcome] at h
    split at h <;> cases h
    rfl
  | get S low high callback =>
    simp only [outcome] at h
    split at h <;> cases h
    rfl

/-- A job calls no callback but its own. -/
theorem Job.answers_callback (job : Job F κ) (o : Faults c) (rows : ∀ S : Sensor, List (S.Data F)) :
    ∀ call ∈ job.answers o (job.outcome o rows), job.callback = some call.callback := by
  intro call h
  cases hc : job.callback with
  | none =>
    cases hr : job.outcome o rows with
    | ok r => simp [answers, hr, hc] at h
    | error e => cases e <;> simp [answers, hr, hc] at h
  | some k =>
    suffices call.callback = k by rw [this]
    cases hr : job.outcome o rows with
    | ok r =>
      simp only [answers, hr, hc, Option.map_some, Option.toList_some, List.mem_append,
        List.mem_singleton] at h
      rcases h with rfl | h
      · exact outcome_callback hr k
      · split_ifs at h with hp
        · obtain rfl : call = job.failed k := by simpa using h
          exact job.failed_callback k
        · simp at h
    | error e =>
      cases e with
      | poco =>
        obtain rfl : call = job.failed k := by simpa [answers, hr, hc] using h
        exact job.failed_callback k
      | std what => simp [answers, hr] at h

section calls

variable [DecidableEq κ] {k : κ}

def callsOf (k : κ) (calls : List (Call F κ)) : List (Call F κ) :=
  calls.filter fun call => call.callback = k

omit [Zero F] in
theorem callsOf_append (calls calls' : List (Call F κ)) :
    callsOf k (calls ++ calls') = callsOf k calls ++ callsOf k calls' := List.filter_append ..

/-- Jobs with other callbacks make no call of `k`. -/
theorem callsOf_runs (a : Collected F κ) {jobs : List (Job F κ × Faults c)}
    (h : ∀ j ∈ jobs, j.1.callback ≠ some k) :
    callsOf k (a.runs jobs).calls = callsOf k a.calls := by
  induction jobs generalizing a with
  | nil => rfl
  | cons j jobs ih =>
    have hj : callsOf k (j.1.answers j.2 (j.1.outcome j.2 a.rows)) = [] := by
      refine List.filter_eq_nil_iff.2 fun call hcall hk => h j (by simp) ?_
      rw [j.1.answers_callback j.2 a.rows call hcall]
      simpa using hk
    have hrun : callsOf k (a.run j.1 j.2).calls = callsOf k a.calls := by
      rw [Collected.run, callsOf_append, hj, List.append_nil]
    exact (ih (a.run j.1 j.2) fun i hi => h i (List.mem_cons_of_mem _ hi)).trans hrun

theorem callsOf_put (a : Collected F κ) {S : Sensor} {model : List (S.Data F)} {o : Faults c}
    (ho : o.callback true = none) :
    callsOf k (a.run (.put S model (some k)) o).calls = callsOf k a.calls
      ++ match o.put model.length with
        | none => [.put k true]
        | some .poco => [.put k false]
        | some (.std _) => [] := by
  rw [Collected.run, callsOf_append]
  congr 1
  simp only [Job.outcome]
  cases hp : o.put model.length with
  | none => simp [Job.answers, Job.callback, ho, callsOf, Call.callback]
  | some e => cases e <;> simp [Job.answers, Job.callback, Job.failed, callsOf, Call.callback]

omit [Zero F] in
theorem own_split {jobs : List (Job F κ × Faults c)} {job : Job F κ}
    (h : (jobs.map Prod.fst).filter (fun j => j.callback = some k) = [job]) :
    ∃ before o after, jobs = before ++ (job, o) :: after
      ∧ (∀ j ∈ before, j.1.callback ≠ some k) ∧ ∀ j ∈ after, j.1.callback ≠ some k := by
  rw [List.filter_map, List.map_eq_singleton_iff] at h
  obtain ⟨⟨job', o⟩, hj, rfl⟩ := h
  obtain ⟨before, after, rfl, hb, -, ha⟩ := List.filter_eq_cons_iff.1 hj
  refine ⟨before, o, after, rfl, fun j hj => by simpa using hb j hj, fun j hj => ?_⟩
  simpa using List.filter_eq_nil_iff.1 ha j hj

/-- What a put job meets first. -/
def Job.putFault (o : Faults c) : Job F κ → Option Exn
  | .put _ model _ => o.put model.length
  | .get _ _ _ _ => none

/-- `k` is called once, with whether the job that the call has handed over, if there is one, has
been committed. -/
def Answered (k : κ) (e : Effects F κ) (jobs : List (Job F κ × Faults c))
    (calls : List (Call F κ)) : Prop :=
  ∃ v, callsOf k (e.calls ++ calls) = [.put k v]
    ∧ (v = true ↔ ∃ j ∈ jobs, j.1 ∈ e.processed ∧ j.1.putFault j.2 = none)

/-- The job that a put has handed over, run among others, answers it unless its statements throw
what it does not catch. -/
theorem answered_job (S : Sensor) (model : List (S.Data F)) {a : Collected F κ}
    {jobs : List (Job F κ × Faults c)} (hfresh : callsOf k a.calls = [])
    (hcallback : ∀ j ∈ jobs, j.1.callback = some k → j.2.callback true = none)
    (hown : (jobs.map Prod.fst).filter (fun job => job.callback = some k)
      = [.put S model (some k)]) :
    Answered k ⟨[.put S model (some k)], []⟩ jobs (a.runs jobs).calls
      ↔ ∀ j ∈ jobs, j.1.callback = some k → ∀ what, j.1.putFault j.2 ≠ some (.std what) := by
  obtain ⟨before, o, after, hsplit, hbefore, hafter⟩ := own_split hown
  have hmem : ∀ j ∈ jobs, j.1.callback = some k → j = (.put S model (some k), o) := by
    intro j hj hk
    rw [hsplit] at hj
    rcases List.mem_append.1 hj with hj | hj
    · exact absurd hk (hbefore j hj)
    · exact (List.mem_cons.1 hj).resolve_right fun hj => hafter j hj hk
  have hj : (.put S model (some k), o) ∈ jobs := by simp [hsplit]
  have ho : o.callback true = none := hcallback _ hj rfl
  have hcalls : callsOf k (a.runs jobs).calls = match o.put model.length with
      | none => [.put k true]
      | some .poco => [.put k false]
      | some (.std _) => [] := by
    rw [hsplit, runs_append]
    refine (callsOf_runs ((a.runs before).run (.put S model (some k)) o) hafter).trans ?_
    rw [callsOf_put _ ho, callsOf_runs a hbefore, hfresh, List.nil_append]
  have hcommit : (∃ j ∈ jobs, j.1 ∈ [.put S model (some k)] ∧ j.1.putFault j.2 = none)
      ↔ o.put model.length = none := by
    constructor
    · rintro ⟨j, hj, hj1, hp⟩
      obtain rfl := hmem j hj (by rw [List.mem_singleton.1 hj1]; rfl)
      exact hp
    · exact fun hp => ⟨_, hj, by simp, hp⟩
  have hstd : (∀ j ∈ jobs, j.1.callback = some k → ∀ what, j.1.putFault j.2 ≠ some (.std what))
      ↔ ∀ what, o.put model.length ≠ some (.std what) := by
    constructor
    · exact fun h => h _ hj rfl
    · intro h j hj hk
      obtain rfl := hmem j hj hk
      exact h
  unfold Answered
  rw [hstd]
  simp only [List.nil_append, hcommit, hcalls]
  cases hp : o.put model.length with
  | none => simp
  | some e => cases e <;> simp

theorem not_answered {a : Collected F κ} {jobs : List (Job F κ × Faults c)}
    (hfresh : callsOf k a.calls = [])
    (hown : (jobs.map Prod.fst).filter (fun job => job.callback = some k) = []) :
    ¬ Answered k ⟨[], []⟩ jobs (a.runs jobs).calls := by
  have hnone : ∀ j ∈ jobs, j.1.callback ≠ some k := by
    intro j hj hk
    simpa [hk] using List.filter_eq_nil_iff.1 hown j.1 (List.mem_map_of_mem hj)
  rintro ⟨v, hv, -⟩
  rw [List.nil_append, callsOf_runs a hnone, hfresh] at hv
  cases hv

variable {T : Type*} [DecidableEq T]

/-- Once the queue has been run to the end, a put has been answered exactly if its input parsed to
an array, as long as the statements of its job throw nothing but a `Poco::Exception`. -/
theorem put_answered_iff (p : Platform V F) (S : Sensor) (clock : ℕ → Int64) (input : List UInt8)
    {a : Collected F κ} {w : World F κ} (hw : Represents c a w) (hfresh : callsOf k a.calls = [])
    {es : List (Event (Job F κ) T (Faults c))} {s : State (Job F κ) T (World F κ)}
    (h : (system (config c) (Represents c a)).Run (fun _ _ => True) (fresh w) es s)
    (hdrained : s.finished = s.accepted)
    (hcallback : ∀ j ∈ s.accepted.zip (choices es), j.1.callback = some k →
      j.2.callback true = none)
    (hown : s.accepted.filter (fun job => job.callback = some k)
      = (Effects.of (DataAccessor.put p S clock input (some k) none)).processed) :
    Answered k (Effects.of (DataAccessor.put p S clock input (some k) none))
        (s.accepted.zip (choices es)) s.world.calls
      ↔ (∃ items, p.parse input = some (.array items))
        ∧ ∀ j ∈ s.accepted.zip (choices es), j.1.callback = some k →
          ∀ what, j.1.putFault j.2 ≠ some (.std what) := by
  obtain ⟨hlen, hrep⟩ := collected_run hw h
  rw [hdrained] at hlen hrep
  have hfst : (s.accepted.zip (choices es)).map Prod.fst = s.accepted :=
    List.map_fst_zip (by omega)
  rw [← hfst] at hown
  rw [hrep.calls]
  have heff := DataAccessor.effects_put p S clock input (some k) none
  by_cases harray : ∃ items, p.parse input = some (.array items)
  · obtain ⟨items, hitems⟩ := harray
    simp only [hitems] at heff
    rw [heff] at hown ⊢
    rw [answered_job S _ hfresh hcallback hown]
    simp [hitems]
  · split at heff
    · exact absurd ⟨_, by assumption⟩ harray
    · rw [heff] at hown ⊢
      exact iff_of_false (not_answered hfresh hown) fun h => harray h.1

end calls

/-- The text of an array with an object that has a `value` of `1` and a `raw` of `2`, with a number,
and with an object that has only a `value`. -/
def mixed : List UInt8 :=
  [91, 123, 34, 118, 97, 108, 117, 101, 34, 58, 49, 44, 34, 114, 97, 119, 34, 58, 50, 125, 44, 51,
    44, 123, 34, 118, 97, 108, 117, 101, 34, 58, 52, 125, 93]

def knowsMixed : Platform ℤ ℤ where
  parse input :=
    if input = mixed then
      some (.array [.object [("value", .scalar 1), ("raw", .scalar 2)], .scalar 3,
        .object [("value", .scalar 4)]])
    else none
  convert
    | .scalar x => some x
    | .array _ | .object _ => none
  numbers := whole

def mixedPut (input : List UInt8) : Effects ℤ ℕ :=
  .of (DataAccessor.put knowsMixed .temperature (fun _ => 0) input (some 0) none)

/-- What is not JSON is put with the callback `0` into a storage that is set up, and that callback
is never called. -/
theorem put_unanswered : ¬ ∀ (input : List UInt8)
    (es : List (Event (Job ℤ ℕ) Unit (Faults whole))) (s : State (Job ℤ ℕ) Unit (World ℤ ℕ)),
    (system (config whole) (Represents whole .blank)).Run (fun _ _ => True) (fresh .blank) es s →
      s.active = true → s.finished = s.accepted → (∀ o ∈ choices es, o = .calm whole) →
      s.accepted = (mixedPut input).processed →
      Answered 0 (mixedPut input) (s.accepted.zip (choices es)) s.world.calls := by
  intro h
  obtain ⟨es, s, hr, hes, ha, hf, hactive, hw⟩ := exists_run (config whole)
    (Represents whole (.blank : Collected ℤ ℕ)) () .blank []
  have hput : mixedPut [63] = ⟨[], []⟩ := rfl
  obtain ⟨v, hv, -⟩ := h [63] es s hr hactive hf (by simp [hes]) (by rw [hput, ha]; rfl)
  rw [hput, hw] at hv
  cases hv

/-- Of an array with acceptable and unacceptable elements, the job inserts what is acceptable, and
it is committed. -/
theorem put_answered_mixed : ∃ s : State (Job ℤ ℕ) Unit (World ℤ ℕ),
    s.accepted = [.put .temperature [⟨1, 2, 0⟩] (some 0)]
      ∧ callsOf 0 s.world.calls = [.put 0 true] := by
  obtain ⟨es, s, hr, hes, ha, hf, -⟩ := exists_run (config whole)
    (Represents whole (.blank : Collected ℤ ℕ)) () .blank
    [(.put .temperature [⟨1, 2, 0⟩] (some 0), .calm whole)]
  have hzip : s.accepted.zip (choices es)
      = [(.put .temperature [⟨1, 2, 0⟩] (some 0), .calm whole)] := by
    rw [ha, hes]
    rfl
  obtain ⟨v, hv, htrue⟩ := (put_answered_iff knowsMixed .temperature (fun _ => 0) mixed
    (k := 0) represents_blank rfl hr hf (by rw [hzip]; simp [Faults.calm])
      (by rw [ha]; rfl)).2 ⟨⟨_, rfl⟩, by
        rw [hzip]
        simp [Job.putFault, Faults.put, Faults.calm, firstFault]⟩
  rw [hzip] at htrue
  have hvtrue : v = true := htrue.2 ⟨_, List.mem_singleton_self _, List.mem_singleton_self _, rfl⟩
  exact ⟨s, ha, hvtrue ▸ hv⟩

end SensorityCollector
