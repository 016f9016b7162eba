import SensorityCollector.Proofs.CollectedRefines
import SensorityCollector.Proofs.StorageRuns

/-!
# Queries are exact

What a get job delivers is what the put jobs of its sensor that were accepted before it have
committed, cut to the range and sorted; nothing else has a part in it.
-/

namespace SensorityCollector

open Sql Transition DataStorage

variable {F κ : Type} {c : Numbers F}

def committed (S : Sensor) (jobs : List (Job F κ × Faults c)) : List (S.Data F) :=
  jobs.flatMap fun j =>
    match j.1 with
    | .put S' model _ =>
      if h : S' = S then if j.2.put model.length = none then h ▸ model else [] else []
    | .get _ _ _ _ => []

variable [Zero F]

theorem run_rows (a : Collected F κ) (job : Job F κ) (o : Faults c) (S : Sensor) :
    (a.run job o).rows S = a.rows S ++ committed S [(job, o)] := by
  cases job with
  | put S' model callback =>
    simp only [Collected.run, Job.outcome, committed, List.flatMap_singleton]
    cases ho : o.put model.length with
    | some e => simp
    | none =>
      by_cases hS : S' = S
      · subst hS
        simp
      · simp [hS, Function.update_of_ne (Ne.symm hS)]
  | get S' low high callback =>
    simp only [Collected.run, Job.outcome, committed, List.flatMap_singleton]
    cases o.get (Job.inRange S' low high (a.rows S')).length <;> simp

theorem runs_rows (a : Collected F κ) (jobs : List (Job F κ × Faults c)) (S : Sensor) :
    (a.runs jobs).rows S = a.rows S ++ committed S jobs := by
  induction jobs generalizing a with
  | nil => simp [Collected.runs, committed]
  | cons j jobs ih =>
    have h := ih (a.run j.1 j.2)
    rw [run_rows] at h
    simpa [Collected.runs, committed, List.append_assoc] using h

def Faults.ReadsWell (o : Faults c) : Prop := o.prepare = none ∧ ∀ n, o.execute n = none

omit [Zero F] in
theorem Faults.ReadsWell.get {o : Faults c} (h : o.ReadsWell) (n : ℕ) : o.get n = none := by
  simp [Faults.get, h.1, firstFault_none h.2]

variable {T : Type*} [DecidableEq T]

omit [Zero F] in
/-- `get` hands over one job, with its own bounds and callback, and calls nobody itself. -/
theorem DataAccessor.effects_get (S : Sensor) (low high : Int64) (callback : Option κ)
    (fault : Option Exn) : Effects.of (DataAccessor.get (F := F) S low high callback fault)
      = ⟨[.get S low high callback], []⟩ := rfl

/-- The call that a get job makes, in its place among the calls of all jobs. -/
theorem get_call {a : Collected F κ} {w : World F κ} (hw : Represents c a w)
    {es : List (Event (Job F κ) T (Faults c))} {s : State (Job F κ) T (World F κ)}
    (h : (system (config c) (Represents c a)).Run (fun _ _ => True) (fresh w) es s)
    {i : ℕ} (hf : i < s.finished.length) {S : Sensor} {low high : Int64} {k : κ}
    (hi : s.accepted[i]? = some (.get S low high (some k))) :
    ∃ o later, (choices es)[i]? = some o ∧ (o.ReadsWell → s.world.calls
      = (a.runs ((s.accepted.zip (choices es)).take i)).calls
        ++ .get k (some ⟨S, o.arrange S (Job.inRange S low high
            (a.rows S ++ committed S ((s.accepted.zip (choices es)).take i)))⟩) true :: later) := by
  obtain ⟨hlen, hrep⟩ := collected_run hw h
  have hreach : (system (config c) (Represents c a)).Reachable s :=
    h.reachableBy (.init ⟨w, hw, rfl⟩)
  rw [← zip_choices hreach hlen] at hrep
  rw [← runs_rows]
  set jobs := s.accepted.zip (choices es) with hjobs
  have ho : i < (choices es).length := hlen ▸ hf
  have hjob : jobs[i]? = some (.get S low high (some k), (choices es)[i]) :=
    List.getElem?_zip_eq_some.2 ⟨hi, List.getElem?_eq_getElem ho⟩
  have hsplit : jobs = jobs.take i ++ (.get S low high (some k), (choices es)[i])
      :: jobs.drop (i + 1) := by
    obtain ⟨hi', he⟩ := List.getElem?_eq_some_iff.1 hjob
    rw [← he, ← List.drop_eq_getElem_cons hi', List.take_append_drop]
  set o := (choices es)[i]
  set a' := a.runs (jobs.take i)
  obtain ⟨later, hlater⟩ := runs_calls (a'.run (.get S low high (some k)) o) (jobs.drop (i + 1))
  have hruns : a.runs jobs = (a'.run (.get S low high (some k)) o).runs (jobs.drop (i + 1)) := by
    conv_lhs => rw [hsplit, runs_append]
    rfl
  refine ⟨o, (if o.callback true = some .poco then [.get k none false] else []) ++ later,
    List.getElem?_eq_getElem ho, fun hwell => ?_⟩
  rw [hrep.calls, hruns, hlater]
  simp [Collected.run, Job.outcome, hwell.get, Job.answers, Job.callback, Job.failed]

/-- A call of `get` hands over one get job with its bounds, and the model that this job passes to
its callback has the readings at the start and the committed ones of the puts accepted before it, in
the range, by timestamp. -/
theorem get_exact {a : Collected F κ} {w : World F κ} (hw : Represents c a w)
    {es : List (Event (Job F κ) T (Faults c))} {s : State (Job F κ) T (World F κ)}
    (h : (system (config c) (Represents c a)).Run (fun _ _ => True) (fresh w) es s)
    (hread : ∀ o ∈ choices es, o.ReadsWell) {i : ℕ} (hf : i < s.finished.length) {S : Sensor}
    {low high : Int64} {k : κ} (hi : s.accepted[i]? = some (.get S low high (some k))) :
    (∀ fault, Effects.of (DataAccessor.get (F := F) S low high (some k) fault)
        = ⟨[.get S low high (some k)], []⟩)
      ∧ ∃ model later, s.world.calls = (a.runs ((s.accepted.zip (choices es)).take i)).calls
          ++ .get k (some ⟨S, model⟩) true :: later
        ∧ model.Perm (Job.inRange S low high
            (a.rows S ++ committed S ((s.accepted.zip (choices es)).take i)))
        ∧ model.Pairwise fun x y => S.timestamp x ≤ S.timestamp y := by
  obtain ⟨o, later, ho, hcall⟩ := get_call hw h hf hi
  exact ⟨DataAccessor.effects_get S low high _, _, later, hcall (hread o (List.mem_of_getElem? ho)),
    o.arrange_perm S _, o.arrange_sorted S _⟩

omit [Zero F] in
theorem Faults.ReadsWell.calm (c : Numbers F) : (Faults.calm c).ReadsWell := ⟨rfl, fun _ => rfl⟩

omit [Zero F] in
theorem Faults.calm_put (c : Numbers F) (n : ℕ) : (Faults.calm c).put n = none := by
  simp [Faults.put, Faults.calm, firstFault]

/-- Temperatures are put, a pressure, and temperatures again; the get between them is of the first
ones, of which one is out of range. -/
theorem get_exact_first :
    ∃ (s : State (Job ℤ ℕ) Unit (World ℤ ℕ)) (model : List (TemperatureData ℤ)),
      .get 7 (some ⟨.temperature, model⟩) true ∈ s.world.calls
      ∧ model.Perm [⟨20, 21, 8⟩, ⟨24, 25, 3⟩]
      ∧ model.Pairwise fun x y => x.timestamp ≤ y.timestamp := by
  obtain ⟨es, s, h, hes, ha, hf, -⟩ := exists_run (config whole)
    (Represents whole (.blank : Collected ℤ ℕ)) () .blank
    [(.put .temperature [⟨20, 21, 8⟩, ⟨22, 23, 9⟩, ⟨24, 25, 3⟩] none, .calm whole),
      (.put .pressure [⟨1000, 4⟩] none, .calm whole),
      (.get .temperature 3 8 (some 7), .calm whole),
      (.put .temperature [⟨26, 27, 4⟩] none, .calm whole)]
  have hread : ∀ o ∈ choices es, o.ReadsWell := by
    rw [hes]
    simp [Faults.ReadsWell.calm]
  obtain ⟨-, model, later, hcalls, hperm, hsorted⟩ := get_exact represents_blank h hread
    (i := 2) (by rw [hf, ha]; decide) (by rw [ha]; rfl)
  refine ⟨s, model, by rw [hcalls]; simp, ?_, hsorted⟩
  rw [hes, ha] at hperm
  exact hperm

end SensorityCollector
