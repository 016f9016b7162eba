import SensorityCollector.Proofs.JobRun
import SensorityCollector.Proofs.StorageWorld

/-!
# Puts are atomic

A sequence of put jobs on any database, each failing or not where its environment decides: what
they leave is the database with the models of those that were answered `true`, in their order.
Whether a job is one of them is a matter of its own statements and of the tables there are, which
no put changes; so it is not a matter of the jobs before it.
-/

namespace SensorityCollector

open Sql

variable {F T κ : Type} {c : Numbers F} {s : Schema F T} {o : Faults c} {db db' : Database F}

/-- The database with the rows of `model` behind those of the table. -/
def Schema.plus (c : Numbers F) (s : Schema F T) (db : Database F) (model : List T) : Database F :=
  match db s.insertInto with
  | none => db
  | some t => Function.update db s.insertInto
      (some (t.append (model.map fun x => Table.record c t.columns (s.use x))))

def SameTables (db db' : Database F) : Prop :=
  ∀ name, (db name).map Table.columns = (db' name).map Table.columns

theorem SameTables.symm (h : SameTables db db') : SameTables db' db := fun name => (h name).symm

theorem SameTables.trans {db'' : Database F} (h : SameTables db db') (h' : SameTables db' db'') :
    SameTables db db'' := fun name => (h name).trans (h' name)

theorem sameTables_insert {name : String} {n : ℕ} {values : List (Value F)}
    (h : db.insert c name n values = some db') : SameTables db' db := by
  intro other
  unfold Database.insert at h
  cases ht : db name with
  | none => simp [ht] at h
  | some t =>
    simp only [ht] at h
    split_ifs at h
    obtain rfl := Option.some.inj h
    by_cases hn : other = name
    · simp [hn, ht]
    · simp [hn]

theorem sameTables_plus (model : List T) : SameTables (s.plus c db model) db := by
  intro other
  unfold Schema.plus
  cases ht : db s.insertInto with
  | none => rfl
  | some t =>
    by_cases hn : other = s.insertInto
    · simp [hn, ht]
    · simp [hn]

theorem insert_isSome (h : SameTables db db') (name : String) (n : ℕ) (values : List (Value F)) :
    (db.insert c name n values).isSome = (db'.insert c name n values).isSome := by
  have hn := h name
  unfold Database.insert
  cases ht : db name with
  | none =>
    cases ht' : db' name with
    | none => rfl
    | some t' => simp [ht, ht'] at hn
  | some t =>
    cases ht' : db' name with
    | none => simp [ht, ht'] at hn
    | some t' =>
      have hcol : t.columns = t'.columns := by simpa [ht, ht'] using hn
      simp only [hcol]
      split_ifs <;> rfl

namespace PutDataJob

/-- What the loop leaves when it comes to its end. -/
theorem inserts_ok {n : ℕ} {model : List T} (h : inserts s o n db model = .ok db') :
    db' = s.plus c db model := by
  induction model generalizing n db with
  | nil =>
    obtain rfl : db = db' := by simpa [inserts] using h
    unfold Schema.plus
    cases ht : db s.insertInto <;> simp [← ht]
  | cons value model ih =>
    simp only [inserts] at h
    cases ho : o.insert n with
    | some e => simp [ho] at h
    | none =>
      cases hi : db.insert c s.insertInto s.placeholders (s.use value) with
      | none => simp [ho, hi] at h
      | some db₁ =>
        simp only [ho, hi] at h
        rw [ih h]
        unfold Database.insert at hi
        cases ht : db s.insertInto with
        | none => simp [ht] at hi
        | some t =>
          simp only [ht] at hi
          split_ifs at hi
          obtain rfl := Option.some.inj hi
          simp [Schema.plus, ht, Table.append_append]

/-- Whether it does is the same on two databases with the same tables. -/
theorem inserts_sameTables (h : SameTables db db') (n : ℕ) (model : List T) :
    (inserts s o n db model).isOk = (inserts s o n db' model).isOk := by
  induction model generalizing n db db' with
  | nil => rfl
  | cons value model ih =>
    simp only [inserts]
    cases o.insert n with
    | some e => rfl
    | none =>
      have hsome := insert_isSome (c := c) h s.insertInto s.placeholders (s.use value)
      cases hi : db.insert c s.insertInto s.placeholders (s.use value) with
      | none =>
        cases hi' : db'.insert c s.insertInto s.placeholders (s.use value) with
        | none => rfl
        | some db₁' => simp [hi, hi'] at hsome
      | some db₁ =>
        cases hi' : db'.insert c s.insertInto s.placeholders (s.use value) with
        | none => simp [hi, hi'] at hsome
        | some db₁' =>
          exact ih (((sameTables_insert hi).trans h).trans (sameTables_insert hi').symm) (n + 1)

theorem attempt_ok {model : List T} (h : attempt s o db model = .ok db') :
    db' = s.plus c db model := by
  unfold attempt at h
  cases hb : o.begin with
  | some e => simp [hb] at h
  | none =>
    cases hi : inserts s o 0 db model with
    | error e => simp [hb, hi] at h
    | ok db₁ =>
      cases hc : o.commit with
      | some e => simp [hb, hi, hc] at h
      | none =>
        obtain rfl : db₁ = db' := by simpa [hb, hi, hc] using h
        exact inserts_ok hi

theorem attempt_sameTables (h : SameTables db db') (model : List T) :
    (attempt s o db model).isOk = (attempt s o db' model).isOk := by
  unfold attempt
  cases o.begin with
  | some e => rfl
  | none =>
    have hi := inserts_sameTables (s := s) (o := o) h 0 model
    cases h₁ : inserts s o 0 db model with
    | error e =>
      cases h₂ : inserts s o 0 db' model with
      | error e' => rfl
      | ok db₂ => simp [h₁, h₂, Except.isOk, Except.toBool] at hi
    | ok db₁ =>
      cases h₂ : inserts s o 0 db' model with
      | error e' => simp [h₁, h₂, Except.isOk, Except.toBool] at hi
      | ok db₂ => cases o.commit <;> rfl

end PutDataJob

structure PutJob (F κ : Type) where
  sensor : Sensor
  model : List (sensor.Data F)
  callback : κ

namespace PutJob

def job (j : PutJob F κ) : Job F κ := .put j.sensor j.model (some j.callback)

variable [Zero F]

/-- The begin, every insert and the commit of the job succeed on `db`. -/
def commits (j : PutJob F κ) (o : Faults c) (db : Database F) : Bool :=
  (PutDataJob.attempt j.sensor.accessor o db j.model).isOk

def plus (c : Numbers F) (db : Database F) (j : PutJob F κ) : Database F :=
  j.sensor.accessor.plus c db j.model

/-- The begin, the inserts and the commit throw nothing but a `Poco::Exception`, and the callback
nothing. -/
structure PocoOnly (o : Faults c) : Prop where
  begin : ∀ e ∈ o.begin, e = .poco
  insert : ∀ n, ∀ e ∈ o.insert n, e = .poco
  commit : ∀ e ∈ o.commit, e = .poco
  callback : ∀ success, o.callback success = none

omit [Zero F] in
theorem inserts_poco {e : Exn} (h : PocoOnly o) {n : ℕ} {model : List T}
    (he : PutDataJob.inserts s o n db model = .error e) : e = .poco := by
  induction model generalizing n db with
  | nil => simp [PutDataJob.inserts] at he
  | cons value model ih =>
    simp only [PutDataJob.inserts] at he
    cases ho : o.insert n with
    | some e' =>
      obtain rfl : e' = e := by simpa [ho] using he
      exact h.insert n e' ho
    | none =>
      cases hi : db.insert c s.insertInto s.placeholders (s.use value) with
      | none => simpa [ho, hi, eq_comm] using he
      | some db₁ => exact ih (by simpa [ho, hi] using he)

omit [Zero F] in
theorem attempt_poco {e : Exn} (h : PocoOnly o) {model : List T}
    (he : PutDataJob.attempt s o db model = .error e) : e = .poco := by
  unfold PutDataJob.attempt at he
  cases hb : o.begin with
  | some e' =>
    obtain rfl : e' = e := by simpa [hb] using he
    exact h.begin e' hb
  | none =>
    cases hi : PutDataJob.inserts s o 0 db model with
    | error e' =>
      obtain rfl : e' = e := by simpa [hb, hi] using he
      exact inserts_poco h hi
    | ok db₁ =>
      cases hc : o.commit with
      | none => simp [hb, hi, hc] at he
      | some e' =>
        obtain rfl : e' = e := by simpa [hb, hi, hc] using he
        exact h.commit e' hc

theorem sameTables_plus (j : PutJob F κ) : SameTables (j.plus c db) db :=
  SensorityCollector.sameTables_plus j.model

theorem commits_sameTables (h : SameTables db db') (j : PutJob F κ) (o : Faults c) :
    j.commits o db = j.commits o db' := PutDataJob.attempt_sameTables h j.model

/-- One job is answered once, and its rows are there exactly if the answer is `true`. -/
theorem execute_eq {w : World F κ} (hw : w.Idle) (h : PocoOnly o) (j : PutJob F κ) :
    (j.job.execute o w).1 =
      { session := ⟨if j.commits o w.session.database then j.plus c w.session.database
            else w.session.database, none⟩,
        calls := w.calls ++ [.put j.callback (j.commits o w.session.database)] } := by
  rw [j.job.execute_world hw]
  cases ha : PutDataJob.attempt j.sensor.accessor o w.session.database j.model with
  | ok db =>
    have hc : j.commits o w.session.database = true := by
      simp [commits, ha, Except.isOk, Except.toBool]
    have he : j.job.effect o w.session.database = .ok (db, (Call.put · true)) := by
      simp only [job, Job.effect, ha]
    have hdb : db = j.plus c w.session.database := PutDataJob.attempt_ok ha
    simp only [he, hc, hdb]
    simp [Job.answers, Job.callback, job, h.callback]
  | error e =>
    obtain rfl := attempt_poco h ha
    have hc : j.commits o w.session.database = false := by
      simp [commits, ha, Except.isOk, Except.toBool]
    have he : j.job.effect o w.session.database = .error .poco := by
      simp only [job, Job.effect, ha]
    simp only [he, hc]
    simp [Job.answers, Job.callback, Job.failed, job]

end PutJob

/-- A sequence of put jobs under failures leaves no transaction open, answers each job once, and
adds to the database, in their order, the models of those it answers `true`: the ones whose own
statements succeed on the database as it was at the start. -/
theorem puts_atomic [Zero F] {w : World F κ} (hw : w.Idle) (jobs : List (PutJob F κ × Faults c))
    (h : ∀ j ∈ jobs, PutJob.PocoOnly j.2) :
    DataStorage.replay (DataStorage.config c) w (jobs.map fun j => (j.1.job, j.2)) =
      { session := ⟨((jobs.filter fun j => j.1.commits j.2 w.session.database).map Prod.fst).foldl
            (PutJob.plus c) w.session.database, none⟩,
        calls := w.calls ++ jobs.map fun j =>
          .put j.1.callback (j.1.commits j.2 w.session.database) } := by
  induction jobs generalizing w with
  | nil =>
    obtain ⟨⟨database, saved⟩, calls⟩ := w
    have hs : saved = none := hw
    simp [DataStorage.replay, hs]
  | cons j jobs ih =>
    have hj := j.1.execute_eq hw (h j (by simp))
    set w' := (j.1.job.execute j.2 w).1 with hw'
    have hidle : w'.Idle := by
      rw [hj]
      rfl
    have hsame : SameTables w'.session.database w.session.database := by
      rw [hj]
      dsimp only
      split_ifs
      · exact j.1.sameTables_plus
      · exact fun _ => rfl
    have hcommits : ∀ i : PutJob F κ × Faults c,
        i.1.commits i.2 w'.session.database = i.1.commits i.2 w.session.database :=
      fun i => i.1.commits_sameTables hsame i.2
    have hrest := ih hidle fun i hi => h i (List.mem_cons_of_mem _ hi)
    simp only [hcommits] at hrest
    rw [List.map_cons, DataStorage.replay, List.foldl_cons]
    refine hrest.trans ?_
    rw [hj]
    cases hc : j.1.commits j.2 w.session.database <;> simp [hc]

/-- Numbers that are whole in either form. -/
def whole : Numbers ℤ := ⟨Int64.toInt, Int64.ofInt⟩

def thermometer : World ℤ ℕ :=
  DataStorage.createTable DataStorage.TemperatureDataDefinition ⟨⟨fun _ => none, none⟩, []⟩

def stumbling : Faults whole :=
  { Faults.calm whole with insert := fun n => if n = 1 then some .poco else none }

theorem PutJob.PocoOnly.calm (c : Numbers F) : PocoOnly (Faults.calm c) :=
  ⟨nofun, nofun, nofun, fun _ => rfl⟩

theorem PutJob.PocoOnly.stumbling : PocoOnly stumbling := by
  refine ⟨nofun, fun n e he => ?_, nofun, fun _ => rfl⟩
  obtain ⟨-, rfl⟩ : n = 1 ∧ .poco = e := by simpa [SensorityCollector.stumbling] using he
  rfl

/-- Of three puts the second fails at its second reading, after the first has gone in. -/
theorem puts_atomic_second_fails : ∃ (w : World ℤ ℕ) (t : Table ℤ),
    w = DataStorage.replay (DataStorage.config whole) thermometer
        [(.put .temperature [⟨20, 21, 1⟩] (some 0), .calm whole),
          (.put .temperature [⟨22, 23, 2⟩, ⟨24, 25, 3⟩] (some 1), stumbling),
          (.put .temperature [⟨26, 27, 4⟩] (some 2), .calm whole)]
      ∧ w.calls = [.put 0 true, .put 1 false, .put 2 true] ∧ w.session.saved = none
      ∧ w.session.database "TemperatureData" = some t
      ∧ t.rows.map (Row.key whole "Timestamp") = [1, 4] := by
  have hpoco : ∀ j ∈ [(⟨Sensor.temperature, [⟨20, 21, 1⟩], 0⟩, Faults.calm whole),
      (⟨.temperature, [⟨22, 23, 2⟩, ⟨24, 25, 3⟩], 1⟩, stumbling),
      ((⟨.temperature, [⟨26, 27, 4⟩], 2⟩ : PutJob ℤ ℕ), .calm whole)], PutJob.PocoOnly j.2 := by
    simp [PutJob.PocoOnly.calm, PutJob.PocoOnly.stumbling]
  refine ⟨_, _, (puts_atomic (w := thermometer) rfl _ hpoco).symm, rfl, rfl, rfl, ?_⟩
  decide

end SensorityCollector
