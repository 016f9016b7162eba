import SensorityCollector.Proofs.PutAtomic

/-!
# The storage keeps what is collected

On tables that `setUp()` has defined, the statements of a job do what `Job.outcome` says, fault by
fault, so that the session of a storage always stands for the readings that its finished jobs have
collected.
-/

namespace SensorityCollector

open Sql

variable {F T κ : Type} {c : Numbers F} {o : Faults c} {db : Database F}

theorem firstFault_succ (f : ℕ → Option Exn) (n count : ℕ) :
    firstFault f n (count + 1) = (f n).or (firstFault f (n + 1) count) := by
  simp only [firstFault, List.range'_succ, List.findSome?_cons]
  cases f n <;> rfl

theorem firstFault_none {f : ℕ → Option Exn} {n count : ℕ} (h : ∀ i, f i = none) :
    firstFault f n count = none := by
  simp [firstFault, h]

def Stored [Zero F] (c : Numbers F) (db : Database F) (S : Sensor) (readings : List (S.Data F)) :
    Prop :=
  db S.definition.1 = some ⟨S.definition.2, readings.map (S.accessor.row c S.definition)⟩

namespace PutDataJob

theorem inserts_stored {s : Schema F T} {t : Table F} (ht : db s.insertInto = some t)
    (hcol : s.placeholders = t.columns.length) (huse : ∀ x, (s.use x).length = s.placeholders)
    (n : ℕ) (model : List T) :
    inserts s o n db model = match firstFault o.insert n model.length with
      | some e => .error e
      | none => .ok (s.plus c db model) := by
  induction model generalizing n db t with
  | nil =>
    have hp : s.plus c db [] = db := by
      simp only [Schema.plus, ht, List.map_nil, Table.append_nil]
      rw [← ht]
      exact Function.update_eq_self _ _
    simp [inserts, firstFault, hp]
  | cons value model ih =>
    rw [List.length_cons, firstFault_succ, inserts]
    cases ho : o.insert n with
    | some e => rfl
    | none =>
      have hi : db.insert c s.insertInto s.placeholders (s.use value)
          = some (Function.update db s.insertInto
              (some (t.append [Table.record c t.columns (s.use value)]))) := by
        simp [Database.insert, ht, huse, hcol]
      have ht' : Function.update db s.insertInto
          (some (t.append [Table.record c t.columns (s.use value)])) s.insertInto
            = some (t.append [Table.record c t.columns (s.use value)]) := by simp
      simp only [hi, Option.none_or]
      rw [ih ht' hcol (n + 1)]
      simp [Schema.plus, ht, Table.append_append]

theorem attempt_stored [Zero F] {S : Sensor} {readings : List (S.Data F)}
    (h : Stored c db S readings) (model : List (S.Data F)) :
    attempt S.accessor o db model = match o.put model.length with
      | some e => .error e
      | none => .ok (S.accessor.plus c db model) := by
  have hs := S.lawful (F := F)
  have ht : db (S.accessor (F := F)).insertInto
      = some ⟨S.definition.2, readings.map (S.accessor.row c S.definition)⟩ := by
    rw [hs.insertInto]
    exact h
  unfold attempt Faults.put
  cases o.begin with
  | some e => rfl
  | none =>
    simp only [inserts_stored ht hs.placeholders hs.use 0 model, Option.none_or]
    cases firstFault o.insert 0 model.length with
    | some e => rfl
    | none => cases o.commit <;> rfl

end PutDataJob

theorem Stored.plus [Zero F] {S : Sensor} {readings : List (S.Data F)} (h : Stored c db S readings)
    (model : List (S.Data F)) :
    Stored c (S.accessor.plus c db model) S (readings ++ model) := by
  have hs := S.lawful (F := F)
  have ht : db (S.accessor (F := F)).insertInto
      = some ⟨S.definition.2, readings.map (S.accessor.row c S.definition)⟩ := by
    rw [hs.insertInto]
    exact h
  simp only [Stored, Schema.plus, ht, ← hs.insertInto, Function.update_self]
  simp [Table.append, Schema.row]

theorem Stored.plus_other [Zero F] {S S' : Sensor} {readings : List (S'.Data F)} (hne : S' ≠ S)
    (h : Stored c db S' readings) (model : List (S.Data F)) :
    Stored c (S.accessor.plus c db model) S' readings := by
  have hs := S.lawful (F := F)
  have hname : S'.definition.1 ≠ (S.accessor (F := F)).insertInto := by
    rw [hs.insertInto]
    exact fun he => hne (Sensor.definition_injective he)
  unfold Stored Schema.plus
  cases db (S.accessor (F := F)).insertInto with
  | none => exact h
  | some t => exact (Function.update_of_ne hname _ _).trans h

namespace GetDataJob

/-- Over rows that overwrite the whole buffer, the loop reads each row once. -/
theorem reads_eq {s : Schema F T} (n : ℕ) (rows : List (List (Value F))) (data : T)
    (h : ∀ row ∈ rows, ∀ data data', extract c s row data = extract c s row data') :
    reads s o n rows data = match firstFault o.execute n (max rows.length 1) with
      | some e => .error e
      | none => .ok (rows.map fun row => extract c s row s.blank) := by
  induction rows generalizing n data with
  | nil =>
    rw [reads, List.length_nil, Nat.max_eq_right (Nat.zero_le 1), firstFault_succ]
    cases o.execute n <;> simp [firstFault]
  | cons row rows ih =>
    have hlen : max (row :: rows).length 1 = rows.length + 1 := by simp
    rw [hlen, firstFault_succ, reads]
    cases o.execute n with
    | some e => rfl
    | none =>
      have hrow := h row (by simp) data s.blank
      cases rows with
      | nil => simp [firstFault, hrow]
      | cons row' rows =>
        have hlen' : max (row' :: rows).length 1 = (row' :: rows).length := by simp
        rw [ih (n + 1) _ fun r hr => h r (List.mem_cons_of_mem _ hr), hlen', Option.none_or]
        cases firstFault o.execute (n + 1) (row' :: rows).length <;> simp [hrow]

variable [Zero F] {S : Sensor} {readings : List (S.Data F)}

theorem extract_row (x data : S.Data F) :
    extract c S.accessor ((S.accessor (F := F)).columns.filterMap fun column =>
      (S.accessor.row c S.definition x).lookup column) data = x :=
  S.lawful.extract c x data

theorem filter_rows (low high : Int64) :
    ((readings.map (S.accessor.row c S.definition)).filter fun row =>
        low ≤ Row.key c "Timestamp" row ∧ Row.key c "Timestamp" row ≤ high)
      = (Job.inRange S low high readings).map (S.accessor.row c S.definition) := by
  rw [List.filter_map, Job.inRange]
  congr 1
  refine List.filter_congr fun x _ => ?_
  simp [S.lawful.key c x]

theorem select_stored (h : Stored c db S readings) (low high : Int64)
    (order : OrderBy (Row.key c "Timestamp")) :
    db.select c (S.accessor (F := F)).selectFrom (S.accessor (F := F)).columns "Timestamp" low high
        order
      = some ((order.sort ((Job.inRange S low high readings).map
          (S.accessor.row c S.definition))).map fun row =>
            (S.accessor (F := F)).columns.filterMap fun column => row.lookup column) := by
  have hs := S.lawful (F := F)
  have ht : db (S.accessor (F := F)).selectFrom
      = some ⟨S.definition.2, readings.map (S.accessor.row c S.definition)⟩ := by
    rw [hs.selectFrom]
    exact h
  simp only [Database.select, ht, if_pos hs.columns, filter_rows]

theorem fetch_stored (h : Stored c db S readings) (low high : Int64) :
    fetch S.accessor o db low high = match o.get (Job.inRange S low high readings).length with
      | some e => .error e
      | none => .ok (o.arrange S (Job.inRange S low high readings)) := by
  unfold fetch Faults.get
  cases o.prepare with
  | some e => rfl
  | none =>
    simp only [select_stored h, Option.none_or]
    rw [reads_eq]
    · simp only [List.length_map, (o.order.perm _).length_eq, List.map_map]
      rfl
    · intro row hrow data data'
      obtain ⟨r, hr, rfl⟩ := List.mem_map.1 hrow
      obtain ⟨x, -, rfl⟩ := List.mem_map.1 ((o.order.perm _).mem_iff.1 hr)
      rw [extract_row, extract_row]

end GetDataJob

section

variable [Zero F]

theorem Sensor.ofRow_row (S : Sensor) (x : S.Data F) :
    S.accessor.ofRow c (S.accessor.row c S.definition x) = x := GetDataJob.extract_row x _

theorem Faults.arrange_perm (o : Faults c) (S : Sensor) (readings : List (S.Data F)) :
    (o.arrange S readings).Perm readings := by
  have h := (o.order.perm (readings.map (S.accessor.row c S.definition))).map (S.accessor.ofRow c)
  simpa [Faults.arrange, Function.comp_def, Sensor.ofRow_row] using h

theorem Faults.arrange_sorted (o : Faults c) (S : Sensor) (readings : List (S.Data F)) :
    (o.arrange S readings).Pairwise fun x y => S.timestamp x ≤ S.timestamp y := by
  have hs := o.order.sorted (readings.map (S.accessor.row c S.definition))
  have hp := o.order.perm (readings.map (S.accessor.row c S.definition))
  refine List.pairwise_map.2 (hs.imp_of_mem fun {a b} ha hb hab => ?_)
  obtain ⟨x, -, rfl⟩ := List.mem_map.1 (hp.mem_iff.1 ha)
  obtain ⟨y, -, rfl⟩ := List.mem_map.1 (hp.mem_iff.1 hb)
  simpa only [Sensor.ofRow_row, S.lawful.key] using hab

/-- The statements of a job do to the tables what the job does to what is collected. -/
theorem Job.effect_stored {rows : ∀ S : Sensor, List (S.Data F)} (h : ∀ S, Stored c db S (rows S))
    (job : Job F κ) :
    match job.outcome o rows with
    | .error e => job.effect o db = .error e
    | .ok (rows', call) =>
      ∃ db', job.effect o db = .ok (db', call) ∧ ∀ S, Stored c db' S (rows' S) := by
  cases job with
  | put S model callback =>
    simp only [outcome, effect, PutDataJob.attempt_stored (h S)]
    cases o.put model.length with
    | some e => rfl
    | none =>
      refine ⟨_, rfl, fun S' => ?_⟩
      by_cases hS : S' = S
      · subst hS
        simpa using (h S').plus model
      · simpa [Function.update_of_ne hS] using (h S').plus_other hS model
  | get S low high callback =>
    simp only [outcome, effect, GetDataJob.fetch_stored (h S)]
    cases o.get (inRange S low high (rows S)).length with
    | some e => rfl
    | none => exact ⟨db, rfl, h⟩

theorem Sensor.mem_tables (S : Sensor) : S.definition ∈ DataStorage.tables := by
  cases S <;> simp [Sensor.definition, DataStorage.tables]

/-- What the rows of the table are read as. -/
def Sensor.collected (c : Numbers F) (S : Sensor) (db : Database F) : List (S.Data F) :=
  (S.rows db).map (S.accessor.ofRow c)

theorem Sensor.rows_stored {S : Sensor} {readings : List (S.Data F)}
    (h : Stored c db S readings ∨ (db S.definition.1 = none ∧ readings = [])) :
    S.rows db = readings.map (S.accessor.row c S.definition) := by
  rcases h with h | ⟨h, rfl⟩
  · rw [Stored] at h
    simp [rows, h]
  · simp [rows, h]

/-- Tables as `setUp()` defines them hold readings and nothing else. -/
theorem Sensor.stored_collected (h : DataStorage.WellFormed db) (S : Sensor) :
    Stored c db S (S.collected c db)
      ∨ (db S.definition.1 = none ∧ S.collected c db = []) := by
  unfold Stored collected rows
  rcases ht : db S.definition.1 with _ | ⟨columns, rows⟩
  · exact .inr ⟨rfl, rfl⟩
  · obtain ⟨rfl, htyped⟩ := h S.definition S.mem_tables _ ht
    refine .inl ?_
    have hrows : rows.map (S.accessor.row c S.definition ∘ S.accessor.ofRow c) = rows.map id :=
      List.map_congr_left fun row hrow => S.row_ofRow c (htyped row hrow)
    simp [hrows]

/-- What is stored besides what was collected before stands behind the rows that were there. -/
theorem Sensor.stored_behind {db' : Database F} {S : Sensor} {readings : List (S.Data F)}
    (h : DataStorage.WellFormed db) (hst : Stored c db' S (S.collected c db ++ readings)) :
    db' S.definition.1 = some ⟨S.definition.2,
      S.rows db ++ readings.map (S.accessor.row c S.definition)⟩ := by
  rw [Sensor.rows_stored (c := c) (S.stored_collected h), ← List.map_append]
  exact hst

/-- The session stands for what is collected. A table that is not yet there holds no readings. -/
structure Represents (c : Numbers F) (a : Collected F κ) (w : World F κ) : Prop where
  idle : w.Idle
  calls : w.calls = a.calls
  tables : ∀ S, Stored c w.session.database S (a.rows S)
    ∨ (w.session.database S.definition.1 = none ∧ a.rows S = [])

def Collected.blank : Collected F κ := ⟨fun _ => [], []⟩

def World.blank : World F κ := ⟨⟨fun _ => none, none⟩, []⟩

theorem represents_blank : Represents c (.blank : Collected F κ) .blank :=
  ⟨rfl, rfl, fun _ => .inr ⟨rfl, rfl⟩⟩

def Created (n : ℕ) (w : World F κ) : Prop :=
  ∀ d ∈ DataStorage.tables.take n, (w.session.database d.1).isSome = true

def World.collected (c : Numbers F) (w : World F κ) : Collected F κ where
  rows S := S.collected c w.session.database
  calls := w.calls

theorem represents_collected {w : World F κ} (hidle : w.Idle)
    (h : DataStorage.WellFormed w.session.database) : Represents c (w.collected c) w :=
  ⟨hidle, rfl, fun S => S.stored_collected h⟩

theorem Represents.stored {a : Collected F κ} {w : World F κ} (h : Represents c a w)
    (hc : Created DataStorage.tables.length w) (S : Sensor) :
    Stored c w.session.database S (a.rows S) := by
  refine (h.tables S).resolve_right fun ⟨hn, _⟩ => ?_
  have := hc S.definition (by simpa using S.mem_tables)
  simp [hn] at this

theorem Sensor.of_mem_tables {d : DataStorage.Definition} (h : d ∈ DataStorage.tables) :
    ∃ S : Sensor, d = S.definition := by
  have ht : DataStorage.tables = [temperature, humidity, pressure, iaq, gas, co2, breathVoc,
    tvoc].map Sensor.definition := rfl
  rw [ht] at h
  obtain ⟨S, -, rfl⟩ := List.mem_map.1 h
  exact ⟨S, rfl⟩

theorem created_of_stored {rows : ∀ S : Sensor, List (S.Data F)} {w : World F κ}
    (h : ∀ S, Stored c w.session.database S (rows S)) (n : ℕ) : Created n w := by
  intro d hd
  obtain ⟨S, rfl⟩ := Sensor.of_mem_tables (List.mem_of_mem_take hd)
  rw [h S]
  rfl

theorem Represents.run {a : Collected F κ} {w : World F κ} (h : Represents c a w)
    (hc : Created DataStorage.tables.length w) (job : Job F κ) (o : Faults c) :
    Represents c (a.run job o) (job.execute o w).1
      ∧ Created DataStorage.tables.length (job.execute o w).1 := by
  have hst := h.stored hc
  have heff := job.effect_stored (o := o) hst
  rw [job.execute_world h.idle]
  cases hout : job.outcome o a.rows with
  | error e =>
    simp only [hout] at heff
    simp only [heff, Collected.run, hout]
    refine ⟨⟨rfl, ?_, fun S => .inl (hst S)⟩, created_of_stored hst _⟩
    cases e <;> simp [h.calls, Job.answers]
  | ok r =>
    simp only [hout] at heff
    obtain ⟨db, heff, hdb⟩ := heff
    simp only [heff, Collected.run, hout]
    exact ⟨⟨rfl, by simp [h.calls, Job.answers], fun S => .inl (hdb S)⟩, created_of_stored hdb _⟩

theorem Represents.define {a : Collected F κ} {w : World F κ} (h : Represents c a w) (S : Sensor) :
    Represents c a (DataStorage.createTable S.definition w) := by
  refine ⟨h.idle, h.calls, fun S' => ?_⟩
  by_cases hS : S' = S
  · subst hS
    refine .inl ?_
    simp only [Stored, DataStorage.createTable, World.mapSession, Database.create_same]
    rcases h.tables S' with ht | ⟨ht, hr⟩
    · rw [ht]
      rfl
    · simp [ht, hr]
  · have hname : S'.definition.1 ≠ S.definition.1 :=
      fun he => hS (Sensor.definition_injective he)
    simpa [Stored, DataStorage.createTable, World.mapSession, Database.create_other _ hname]
      using h.tables S'

omit [Zero F] in
theorem created_createTable {d : DataStorage.Definition} {w : World F κ} {name : String}
    (h : (w.session.database name).isSome = true) :
    ((DataStorage.createTable d w).session.database name).isSome = true := by
  simp only [DataStorage.createTable, World.mapSession]
  by_cases hd : name = d.1
  · simp [hd, Database.create_same]
  · rwa [Database.create_other _ hd]

theorem tracks (c : Numbers F) :
    DataStorage.Tracks (DataStorage.config (κ := κ) c) (fun _ => True)
      (fun job o a => a.run job o) (Represents c) Created where
  zero w := by simp [Created]
  mono m n w hmn h d hd := h d ((List.take_subset_take_left _ hmn) hd)
  define n f w hf := by
    obtain ⟨d, hd, rfl⟩ : ∃ d, DataStorage.tables[n]? = some d ∧ DataStorage.createTable d = f := by
      simpa [DataStorage.config, List.getElem?_map] using hf
    refine ⟨fun a h => ?_, fun h d' hd' => ?_, fun m h d' hd' => created_createTable (h d' hd')⟩
    · obtain ⟨S, rfl⟩ := Sensor.of_mem_tables (List.mem_of_getElem? hd)
      exact h.define S
    · rw [List.take_add_one, hd] at hd'
      rcases List.mem_append.1 hd' with hd' | hd'
      · exact created_createTable (h d' hd')
      · obtain rfl : d' = d := by simpa using hd'
        simp [DataStorage.createTable, World.mapSession, Database.create_same]
  run job o a w _ hc h := by
    have hlen : (DataStorage.config (κ := κ) c).definitions.length = DataStorage.tables.length := by
      simp [DataStorage.config]
    rw [hlen] at hc ⊢
    exact h.run hc job o

/-- In every run of the storage, its session stands for what the finished jobs have collected. -/
theorem collected_run {T : Type*} [DecidableEq T] {a : Collected F κ} {w : World F κ}
    (hw : Represents c a w) {es : List (DataStorage.Event (Job F κ) T (Faults c))}
    {s : DataStorage.State (Job F κ) T (World F κ)}
    (h : (DataStorage.system (DataStorage.config c) (Represents c a)).Run (fun _ _ => True)
      (DataStorage.fresh w) es s) :
    s.finished.length = (DataStorage.choices es).length
      ∧ Represents c (a.runs (s.finished.zip (DataStorage.choices es))) s.world :=
  (DataStorage.tracks_run (tracks c) hw hw (fun _ _ => trivial) h).2

theorem stored_run {T : Type*} [DecidableEq T] {a : Collected F κ} {w : World F κ}
    (hw : Represents c a w) {es : List (DataStorage.Event (Job F κ) T (Faults c))}
    {s : DataStorage.State (Job F κ) T (World F κ)}
    (h : (DataStorage.system (DataStorage.config c) (Represents c a)).Run (fun _ _ => True)
      (DataStorage.fresh w) es s) (hd : s.setUpDone) (S : Sensor) :
    Stored c s.world.session.database S
      ((a.runs (s.finished.zip (DataStorage.choices es))).rows S) := by
  obtain ⟨hdef, -, hrep⟩ := DataStorage.tracks_run (tracks c) hw hw (fun _ _ => trivial) h
  have hlen : (DataStorage.config (κ := κ) c).definitions.length = DataStorage.tables.length := by
    simp [DataStorage.config]
  exact Represents.stored hrep (hlen ▸ hdef.done hd) S

/-- The jobs that have been run, each with what its environment chose, are the first of those
accepted. -/
theorem zip_choices {T : Type*} [DecidableEq T] {w₀ : World F κ → Prop}
    {s : DataStorage.State (Job F κ) T (World F κ)} {os : List (Faults c)}
    (h : (DataStorage.system (DataStorage.config c) w₀).Reachable s)
    (hlen : s.finished.length = os.length) :
    s.accepted.zip os = s.finished.zip os := by
  obtain ⟨rest, hrest⟩ := DataStorage.finished_initial h
  rw [← hrest]
  conv_lhs => rw [← List.append_nil os]
  rw [List.zip_append hlen, List.zip_nil_right, List.append_nil]

theorem runs_append (a : Collected F κ) (jobs jobs' : List (Job F κ × Faults c)) :
    a.runs (jobs ++ jobs') = (a.runs jobs).runs jobs' := by
  simp [Collected.runs]

theorem runs_calls (a : Collected F κ) (jobs : List (Job F κ × Faults c)) :
    ∃ calls, (a.runs jobs).calls = a.calls ++ calls := by
  induction jobs generalizing a with
  | nil => exact ⟨[], by simp [Collected.runs]⟩
  | cons j jobs ih =>
    obtain ⟨calls, h⟩ := ih (a.run j.1 j.2)
    exact ⟨_, h.trans (List.append_assoc _ _ _)⟩

end

end SensorityCollector
