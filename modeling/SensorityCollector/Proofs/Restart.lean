import SensorityCollector.Proofs.GetExact
import SensorityCollector.Restart

/-!
# What a restart leaves of the rows

A session of the collector opens the database its configuration names, runs its jobs and lets go of
it. On a file, its rows are those of the sessions before it and those it has committed. But a file
is opened only under a path with a directory in it: every other database is one in memory, that of
the default name too.
-/

namespace SensorityCollector

open Sql Transition DataStorage

namespace Filesystem

/-- A path has a parent path exactly if there is a separator in it. -/
theorem hasParentPath_iff {path : String} : hasParentPath path = true ↔ '/' ∈ path.toList := by
  have hdirectory : path.toList.rdropWhile (· ≠ '/') ≠ [] ↔ '/' ∈ path.toList := by
    rw [Ne, List.rdropWhile_eq_nil_iff]
    simp
  rw [← hdirectory]
  unfold hasParentPath parentPath
  simp only [decide_eq_true_eq]
  split_ifs with hname heq hnil
  · refine iff_of_true (by rwa [Ne, ← String.ofList_nil, String.ofList_inj]) fun hnil => ?_
    exact hname (by rw [hnil]; rfl)
  · rw [heq, Ne, ← String.toList_inj]
    rfl
  · exact iff_of_false (by simp) (not_not.mpr hnil)
  · exact iff_of_true (by decide) hnil

example : hasParentPath Name = false := by decide

example : parentPath "//" = "//" := by decide

end Filesystem

namespace StorageSubsystem

open Filesystem

variable {F κ T : Type} [Zero F] [DecidableEq T] {c : Numbers F} {files files' : Files F}
  {path : String} {rows : ∀ S : Sensor, List (S.Data F)} {jobs : List (Job F κ × Faults c)}

/-- A session of the collector, of which `jobs` are those that have been run. -/
inductive Life (T : Type) [DecidableEq T] (connectionString : String) (files : Files F) :
    List (Job F κ × Faults c) → Files F → Prop
  | mk {es : List (Event (Job F κ) T (Faults c))} {s : State (Job F κ) T (World F κ)} :
      (system (config c) (· = opened files connectionString)).Run (fun _ _ => True)
        (fresh (opened files connectionString)) es s →
      Life T connectionString files (s.finished.zip (choices es))
        (s.world.session.close files connectionString)

def lives (T : Type) [DecidableEq T] (κ : Type) (c : Numbers F) (connectionString : String) :
    System (Files F) (List (Job F κ × Faults c)) where
  init _ := True
  step := Life T connectionString

/-- The readings in the tables of the database; a table that is not there holds none. -/
def Holds (c : Numbers F) (db : Database F) (rows : ∀ S : Sensor, List (S.Data F)) : Prop :=
  ∀ S, Stored c db S (rows S) ∨ (db S.definition.1 = none ∧ rows S = [])

/-- What is collected in a database called `path`, opened as `connectionString` in every session,
survives: once the storage of a session is set up, its tables hold the rows that were there at
first, those committed in all earlier sessions, and those committed in this one. -/
structure Survives (T : Type) [DecidableEq T] (κ : Type) (c : Numbers F)
    (path connectionString : String) : Prop where
  file : connectionString = path
  rows : ∀ (rows : ∀ S : Sensor, List (S.Data F)) (files files' : Files F)
    (earlier : List (List (Job F κ × Faults c))) (es : List (Event (Job F κ) T (Faults c)))
    (s : State (Job F κ) T (World F κ)), Holds c (files path) rows →
      (lives T κ c connectionString).Run (fun _ _ => True) files earlier files' →
      (system (config c) (· = opened files' connectionString)).Run (fun _ _ => True)
        (fresh (opened files' connectionString)) es s → s.setUpDone →
      ∀ S, Stored c s.world.session.database S
        (rows S ++ earlier.flatMap (committed S) ++ committed S (s.finished.zip (choices es)))

omit [Zero F] in
theorem run_from {W O : Type} {d : Config (Job F κ) W O} {w₀ w₁ : W → Prop}
    {es : List (Event (Job F κ) T O)} {s t : State (Job F κ) T W}
    (h : (system d w₀).Run (fun _ _ => True) s es t) :
    (system d w₁).Run (fun _ _ => True) s es t := h.of_step _ fun _ _ _ hst => hst

theorem Holds.represents {connectionString : String}
    (h : Holds c (Session.connect files connectionString).database rows) :
    Represents c ⟨rows, []⟩ (opened files connectionString : World F κ) := ⟨rfl, rfl, h⟩

omit [Zero F] in
theorem connect_file (files : Files F) (hne : path ≠ memory) :
    (Session.connect files path).database = files path := if_neg hne

omit [Zero F] in
theorem close_file (hne : path ≠ memory) {session : Session F} (hidle : session.saved = none) :
    session.close files path path = session.database := by
  simp [Session.close, hne, hidle]

theorem Holds.life (hne : path ≠ memory) (h : Holds c (files path) rows)
    (hs : Life T path files jobs files') :
    Holds c (files' path) fun S => rows S ++ committed S jobs := by
  obtain ⟨hrun⟩ := hs
  rw [← connect_file files hne] at h
  obtain ⟨-, hrep⟩ := collected_run h.represents (run_from hrun)
  rw [close_file hne hrep.idle]
  intro S
  have htables := hrep.tables S
  rwa [runs_rows] at htables

theorem Holds.lives (hne : path ≠ memory) {earlier : List (List (Job F κ × Faults c))}
    (h : Holds c (files path) rows)
    (hs : (lives T κ c path).Run (fun _ _ => True) files earlier files') :
    Holds c (files' path) fun S => rows S ++ earlier.flatMap (committed S) := by
  induction hs with
  | nil => simpa using h
  | snoc _ _ hst ih =>
    have hlife := ih.life hne hst
    simpa [List.append_assoc] using hlife

theorem survives_file (hne : path ≠ memory) : Survives T κ c path path := by
  refine ⟨rfl, fun rows files files' earlier es s h hlives hrun hdone S => ?_⟩
  have hholds := h.lives hne hlives
  rw [← connect_file files' hne] at hholds
  have hstored := stored_run hholds.represents (run_from hrun) hdone S
  rwa [runs_rows] at hstored

/-- In memory, a session does not find the rows of the one before. -/
theorem not_survives_memory [Inhabited T] : ¬ Survives T κ c path memory := by
  intro h
  let row : TemperatureData F := ⟨0, 0, 0⟩
  obtain ⟨es, s, hrun, hes, ha, hf, -, -⟩ := exists_run (config c)
    (· = opened (fun _ _ => none) memory) (default : T) (opened (fun _ _ => none) memory)
    [(.put .temperature [row] none, .calm c)]
  have hlife : (lives T κ c memory).Run (fun _ _ => True) (fun _ _ => none) _ _ :=
    .single trivial (.mk hrun)
  rw [hf, ha, hes] at hlife
  obtain ⟨es', -, -, hrun'⟩ := setUp_run (T := T) (config (κ := κ) c)
    (· = opened (fun _ _ => none) memory) (opened (fun _ _ => none) memory)
  have hstored := h.rows (fun _ => []) _ _ _ es' _ (fun _ => .inr ⟨rfl, rfl⟩) hlife hrun'
    (.inl rfl) .temperature
  have hblank : Represents c (.blank : Collected F κ) (opened (fun _ _ => none) memory) :=
    ⟨rfl, rfl, fun _ => .inr ⟨rfl, rfl⟩⟩
  have hstored' := stored_run hblank (run_from hrun') (.inl rfl) .temperature
  unfold Stored at hstored hstored'
  rw [hstored] at hstored'
  have hcalm : (Faults.calm c).put 1 = none := by simp [Faults.put, Faults.calm, firstFault]
  simp [committed, Collected.runs, Collected.blank, rested, State.setWorker, fresh, hcalm]
    at hstored'

/-- What is collected under a configuration survives exactly if the path has a directory in it,
and that can be used. -/
theorem survives_iff [Inhabited T] (κ : Type) (c : Numbers F) (creatable : String → Bool)
    (config : String → Option String) :
    Survives T κ c (getString config DatabasePath Name) (createDatabase creatable config)
      ↔ hasParentPath (getString config DatabasePath Name) = true
        ∧ creatable (parentPath (getString config DatabasePath Name)) = true := by
  unfold createDatabase
  simp only []
  split_ifs with hp hc
  · refine iff_of_true (survives_file ?_) ⟨hp, hc⟩
    intro heq
    rw [heq] at hp
    exact absurd hp (by decide)
  · exact iff_of_false not_survives_memory fun h => hc h.2
  · exact iff_of_false not_survives_memory fun h => hp h.1

/-- Under the default name, nothing does. -/
theorem default_not_kept : ¬ ∀ (creatable : String → Bool) (config : String → Option String),
    (hasParentPath (getString config DatabasePath Name) = true →
      creatable (parentPath (getString config DatabasePath Name)) = true) →
    Survives Unit ℕ whole (getString config DatabasePath Name)
      (createDatabase creatable config) := by
  intro h
  have hmemory : createDatabase (fun _ => true) (fun _ => none) = memory := by decide
  have hsurvives := h (fun _ => true) (fun _ => none) fun _ => rfl
  rw [hmemory] at hsurvives
  exact not_survives_memory hsurvives

end StorageSubsystem

end SensorityCollector
