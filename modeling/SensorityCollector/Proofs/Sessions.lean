import SensorityCollector.Batch
import SensorityCollector.Proofs.Collector
import SensorityCollector.Proofs.Restart
import SensorityCollector.Sessions

/-!
# What the sessions leave of the messages

The jobs of one message count as a whole or not at all for a sensor's table, as one of them at most
is a put for it. A session that ends at any moment has so stored whole messages, and the first ones
if no put has failed; the next session finds them on the file and adds its own.
-/

namespace SensorityCollector

open Sql Transition DataStorage

namespace Collector

open Ingestion (Delivery arrivals readings model)

variable {V F κ : Type} [Zero F] {c : Numbers F} {p : Platform V F}
  {routes : List String → String → Bool} {config : String → Option String}
  {slots : List SensorDataObserver}

namespace History

variable (x : History F κ c)

def received : List Delivery := x.last.ingestion.received

/-- What the environment has chosen for the jobs that have been run. -/
def choices : List (Faults c) := DataStorage.choices (x.events.filterMap Event.onStorage)

/-- No put has failed. -/
def Calm : Prop := ∀ o ∈ x.choices, ∀ n, o.put n = none

/-- No message is on its way to the tables. -/
def Drained : Prop :=
  x.last.ingestion.emitting = none
    ∧ x.last.ingestion.storage.finished = x.last.ingestion.storage.accepted

end History

/-- `saved` is what a session has stored of the messages that the broker has sent, sensor by
sensor. -/
structure Saved (x : History F κ c) (saved : Sensor → List Delivery) : Prop where
  sent : x.last.routed.Sublist (sendable x.events)
  received : x.received.Sublist x.last.routed
  sublist : ∀ S, (saved S).Sublist x.received
  cut : x.Calm → ∃ n, ∀ S, saved S = x.received.take n ∨ saved S = x.received.take (n + 1)
  whole : x.Calm → x.Drained → ∀ S, saved S = x.received

/-! ## The jobs of a message -/

/-- Whether a job has been carried out, if it is a put. -/
def carried : Job F κ × Faults c → Bool
  | (.put _ model _, o) => o.put model.length = none
  | (.get _ _ _ _, _) => true

omit [Zero F] in
theorem committed_carried (S : Sensor) (jobs : List (Job F κ × Faults c)) :
    committed S jobs = ((jobs.filter carried).map Prod.fst).flatMap (model S) := by
  induction jobs with
  | nil => rfl
  | cons j jobs ih =>
    have hcons : committed S (j :: jobs) = committed S [j] ++ committed S jobs := by
      simp [committed]
    rw [hcons, ih]
    rcases j with ⟨⟨S', values, callback⟩ | _, o⟩
    · by_cases ho : o.put values.length = none <;> simp [committed, carried, model, ho]
    · simp [committed, carried, model, List.filter_cons]

theorem length_jobs_le (o : SensorDataObserver) (clock : Sensor → ℕ → Int64) (m : MqttMessage) :
    (o.jobs (κ := κ) p clock m).length ≤ 1 := by
  unfold SensorDataObserver.jobs
  split_ifs
  · split <;> simp
  · simp

theorem model_jobs {o : SensorDataObserver} {S : Sensor} (ho : o._accessor ≠ S)
    (clock : Sensor → ℕ → Int64) (m : MqttMessage) :
    ∀ j ∈ o.jobs (κ := κ) p clock m, model S j = [] := by
  unfold SensorDataObserver.jobs
  split_ifs
  · split <;> simp [model, ho]
  · simp

/-- Of the jobs of a message, a table gets all its readings from one. -/
theorem whole_jobs
    (hslots : slots.Perm ((StorageSubsystem.createObserver config).map SensorDataObserver.setUp))
    (S : Sensor) (d : Delivery) : Batches.Whole (model S) (d.jobs (κ := κ) p slots) := by
  unfold Ingestion.Delivery.jobs
  rcases MqttClient.onMessage d.message with _ | m
  · intro l hl
    exact .inl (by rw [List.sublist_nil.1 hl, List.flatMap_nil])
  have hnodup := Ingestion.slots_nodup hslots
  obtain ⟨before, after, rfl⟩ := List.append_of_mem (Ingestion.mem_slots hslots S)
  rw [List.map_append, List.map_cons, List.nodup_middle, List.nodup_cons, ← List.map_append]
    at hnodup
  have hne : ∀ o ∈ before ++ after, ∀ j ∈ o.jobs (κ := κ) p d.clock m, model S j = [] := by
    intro o ho
    refine model_jobs (fun he => hnodup.1 ?_) d.clock m
    have hmem : o._accessor ∈ (before ++ after).map (·._accessor) := List.mem_map_of_mem ho
    rwa [he] at hmem
  simp only [Option.map_some, Option.getD_some, List.flatMap_append, List.flatMap_cons]
  rw [← List.append_assoc]
  refine .of_middle (fun j hj => ?_) (fun j hj => ?_) (length_jobs_le _ d.clock m)
  · obtain ⟨o, ho, hj⟩ := List.mem_flatMap.1 hj
    exact hne o (List.mem_append_left _ ho) j hj
  · obtain ⟨o, ho, hj⟩ := List.mem_flatMap.1 hj
    exact hne o (List.mem_append_right _ ho) j hj

section jobs

variable
  (hslots : slots.Perm ((StorageSubsystem.createObserver config).map SensorDataObserver.setUp))
  (hempty : ∀ items, p.parse [] ≠ some (.array items))

include hslots hempty

variable {ds : List Delivery} {jobs : List (Job F κ × Faults c)}
  (hjobs : jobs.map Prod.fst <+: ds.flatMap (Delivery.jobs p slots))

include hjobs

/-- The first jobs of some messages have stored some of these messages. -/
theorem exists_some (S : Sensor) : ∃ kept : List Delivery, kept.Sublist ds
    ∧ committed S jobs = readings p S (StorageSubsystem.topic config S) kept := by
  have hsub : ((jobs.filter carried).map Prod.fst).Sublist (ds.flatMap (Delivery.jobs p slots)) :=
    (List.filter_sublist.map Prod.fst).trans hjobs.sublist
  obtain ⟨kept, hkept, hflat⟩ := Batches.exists_sublist (whole_jobs hslots S) hsub
  exact ⟨kept, hkept, by rw [committed_carried, hflat, Ingestion.deliveries_model hslots hempty]⟩

/-- Without a failing put, they have stored the first ones, for every table up to the message that
the next job is of. -/
theorem exists_first (hcalm : ∀ j ∈ jobs, ∀ n, j.2.put n = none) :
    ∃ n, ∀ S, ∃ kept, (kept = ds.take n ∨ kept = ds.take (n + 1))
      ∧ committed S jobs = readings p S (StorageSubsystem.topic config S) kept := by
  obtain ⟨n, part, hfirst, hpart⟩ := Batches.exists_cut hjobs
  refine ⟨n, fun S => ?_⟩
  rw [Ingestion.committed_all hcalm, hfirst]
  rcases Batches.flatMap_cut (whole_jobs hslots S) hpart with hflat | hflat
  · exact ⟨_, .inl rfl, hflat.trans (Ingestion.deliveries_model hslots hempty S _)⟩
  · exact ⟨_, .inr rfl, hflat.trans (Ingestion.deliveries_model hslots hempty S _)⟩

end jobs

/-! ## One session -/

section session

variable {observers : List SensorDataObserver} {w₀ : World F κ → Prop} {w : World F κ}
  {s t : State F κ} {es : List (Event κ c)}

/-- The jobs that have been run are the first ones of those that the messages received make. -/
theorem finished_jobs (hs : s.ingestion = Ingestion.start w) (hw : w₀ w)
    (h : (system c p routes observers w₀).Run (fun _ _ => True) s es t) :
    t.ingestion.storage.finished
        <+: t.ingestion.received.flatMap (Delivery.jobs p (CompositeDataObserver.setUp observers))
      ∧ (t.ingestion.emitting = none →
        t.ingestion.storage.finished = t.ingestion.storage.accepted →
        t.ingestion.storage.finished = t.ingestion.received.flatMap
          (Delivery.jobs p (CompositeDataObserver.setUp observers))) := by
  obtain ⟨fs, hr, -⟩ := run_ingestion h
  rw [hs] at hr
  have hacc := Ingestion.account_reachable (hr.reachableBy (.init ⟨w, hw, rfl⟩))
  have hinit : (DataStorage.system (DataStorage.config c) w₀).init
      (Ingestion.start w).storage := ⟨w, hw, rfl⟩
  have hstorage := (Ingestion.run_storage hr).reachableBy (.init hinit)
  refine ⟨(finished_initial hstorage).trans ?_,
    fun he hdrained => hdrained.trans (hacc.accepted he)⟩
  rw [← hacc.jobs, List.append_assoc, List.append_assoc]
  exact List.prefix_append ..

/-- Of the messages received, a session has stored some for each table, and but for failing puts
the first ones. -/
theorem exists_saved (hobservers : observers.Perm (StorageSubsystem.createObserver config))
    (hempty : ∀ items, p.parse [] ≠ some (.array items))
    (hinit : (system c p routes observers w₀).init s)
    (h : (system c p routes observers w₀).Run (fun _ _ => True) s es t)
    (hlen : t.ingestion.storage.finished.length
      = (History.choices (⟨es, t⟩ : History F κ c)).length) :
    ∃ saved, Saved ⟨es, t⟩ saved ∧
      ∀ S, committed S (t.ingestion.storage.finished.zip (History.choices ⟨es, t⟩))
        = readings p S (StorageSubsystem.topic config S) (saved S) := by
  have hsent := sent_routed hinit h
  have hreceived : t.ingestion.received.Sublist t.routed :=
    (List.sublist_append_left ..).trans (conserves (h.reachableBy (.init hinit))).sublist
  obtain ⟨call, w, retained, hw, hs⟩ := hinit
  obtain ⟨hinitial, hdone⟩ := finished_jobs (by rw [hs]) hw h
  have hslots : (CompositeDataObserver.setUp observers).Perm
      ((StorageSubsystem.createObserver config).map SensorDataObserver.setUp) := hobservers.map _
  set x : History F κ c := ⟨es, t⟩
  set jobs := t.ingestion.storage.finished.zip x.choices
  have hfst : jobs.map Prod.fst = t.ingestion.storage.finished := List.map_fst_zip hlen.le
  rw [← hfst] at hinitial hdone
  by_cases hcalm : x.Calm
  · have hall : ∀ j ∈ jobs, ∀ n, j.2.put n = none := fun j hj => hcalm _ (List.of_mem_zip hj).2
    by_cases hdrained : x.Drained
    · refine ⟨fun _ => x.received,
        ⟨hsent, hreceived, fun _ => .refl _, fun _ => ?_, fun _ _ _ => rfl⟩, fun S => ?_⟩
      · exact ⟨x.received.length, fun _ => .inl List.take_length.symm⟩
      · rw [Ingestion.committed_all hall, hdone hdrained.1 (hfst.trans hdrained.2),
          List.flatMap_assoc]
        exact Ingestion.deliveries_model hslots hempty S _
    · obtain ⟨n, hcut⟩ := exists_first hslots hempty hinitial hall
      choose saved htake hsaved using hcut
      refine ⟨saved, ⟨hsent, hreceived, fun S => ?_, fun _ => ⟨n, htake⟩,
        fun _ h => absurd h hdrained⟩, hsaved⟩
      rcases htake S with h | h <;> exact h ▸ List.take_sublist ..
  · choose saved hsub hsaved using exists_some hslots hempty hinitial
    exact ⟨saved, ⟨hsent, hreceived, hsub, fun h => absurd h hcalm, fun h => absurd h hcalm⟩,
      hsaved⟩

end session

/-! ## Session after session -/

variable {files files' : Files F} {path : String} {rows : ∀ S : Sensor, List (S.Data F)}

theorem holds_life (hne : path ≠ memory) (hempty : ∀ items, p.parse [] ≠ some (.array items))
    {x : History F κ c} (h : StorageSubsystem.Holds c (files path) rows)
    (hs : Life p routes config path files x files') :
    ∃ saved, Saved x saved ∧ StorageSubsystem.Holds c (files' path) fun S =>
      rows S ++ readings p S (StorageSubsystem.topic config S) (saved S) := by
  obtain ⟨hobservers, hinit, hrun⟩ := hs
  obtain ⟨fs, hr, hfs⟩ := run_ingestion hrun
  have hsaved := exists_saved hobservers hempty hinit hrun
  obtain ⟨call, w, retained, rfl, rfl⟩ := hinit
  have hstorage := Ingestion.run_storage hr
  rw [hfs] at hstorage
  have hholds := h.life hne (.mk hstorage)
  rw [← StorageSubsystem.connect_file files hne] at h
  obtain ⟨hlen, -⟩ := collected_run h.represents (StorageSubsystem.run_from hstorage)
  obtain ⟨saved, hsaved, hrows⟩ := hsaved hlen
  refine ⟨saved, hsaved, ?_⟩
  simp only [← hrows]
  exact hholds

theorem holds_lives (hne : path ≠ memory) (hempty : ∀ items, p.parse [] ≠ some (.array items))
    (h : StorageSubsystem.Holds c (files path) rows) {sessions : List (History F κ c)}
    (hr : (lives κ c p routes config path).Run (fun _ _ => True) files sessions files') :
    ∃ saved, List.Forall₂ Saved sessions saved
      ∧ StorageSubsystem.Holds c (files' path) fun S => rows S
        ++ readings p S (StorageSubsystem.topic config S) (saved.flatMap fun ds => ds S) := by
  induction hr with
  | nil => exact ⟨[], .nil, by simpa [readings] using h⟩
  | snoc _ _ hs ih =>
    obtain ⟨saved, hsaved, hholds⟩ := ih
    obtain ⟨ds, hds, hholds'⟩ := holds_life hne hempty hholds hs
    refine ⟨saved ++ [ds], List.rel_append hsaved (.cons hds .nil), ?_⟩
    simpa [readings, List.append_assoc] using hholds'

/-- Whenever the sessions end, and whatever fails in them: of the messages that the broker has sent
in a session, the file has kept some for each table, each as a whole, once and in their order. If no
put has failed, these are the first ones of those received, up to the same message for all tables or
the next one, and all of them if nothing was on its way to the tables. -/
theorem sessions_kept (creatable : String → Bool) (config : String → Option String)
    (hfile : StorageSubsystem.createDatabase creatable config ≠ memory)
    (hempty : ∀ items, p.parse [] ≠ some (.array items))
    (h : DataStorage.WellFormed (files (StorageSubsystem.createDatabase creatable config)))
    {sessions : List (History F κ c)}
    (hr : (lives κ c p routes config (StorageSubsystem.createDatabase creatable config)).Run
      (fun _ _ => True) files sessions files') :
    ∃ saved, List.Forall₂ Saved sessions saved
      ∧ ∀ S : Sensor, S.Adds p
        (arrivals p S (StorageSubsystem.topic config S) (saved.flatMap fun ds => ds S))
        (S.rows (files (StorageSubsystem.createDatabase creatable config)))
        (S.rows (files' (StorageSubsystem.createDatabase creatable config))) := by
  obtain ⟨saved, hsaved, hholds⟩ := holds_lives hfile hempty
    (fun S => S.stored_collected (c := c) h) hr
  refine ⟨saved, hsaved, fun S => ⟨_, ?_, Ingestion.records_arrivals c p S _ _⟩⟩
  rw [Sensor.rows_stored (hholds S), List.map_append,
    ← Sensor.rows_stored (c := c) (S.stored_collected h)]

/-- A database in a directory, and nothing else configured. -/
def inDirectory (key : String) : Option String :=
  if key = DatabasePath then some "data/scollector.db" else none

/-- A session that takes in a reading and something that is not JSON, and one that has hardly
begun. -/
theorem sessions_kept_two : ∃ (x y : History ℤ ℕ whole) (files : Files ℤ),
    (lives ℕ whole Ingestion.knowsOne exactly inDirectory "data/scollector.db").Run
      (fun _ _ => True) (fun _ _ => none) [x, y] files
    ∧ x.received = [Ingestion.deliver "temperature" Ingestion.oneReading,
      Ingestion.deliver "humidity" [63]]
    ∧ Sensor.temperature.rows (files "data/scollector.db")
      = [[("Value", .real 1), ("Raw", .real 2), ("Timestamp", .integer 5)]] := by
  obtain ⟨es, u, fs, t, hr, -, -, -, -, hkept, hfaults, hrest, -, -, -, hrec, hpub⟩ := published_run
  have hpath : StorageSubsystem.createDatabase (fun _ => true) inDirectory
      = "data/scollector.db" := by decide
  have hobservers : StorageSubsystem.createObserver (fun _ => none)
      = StorageSubsystem.createObserver inDirectory := by decide
  have hopened : StorageSubsystem.opened (fun _ _ => none) "data/scollector.db"
      = (.blank : World ℤ ℕ) := by
    simp [StorageSubsystem.opened, Session.connect, memory, World.blank]
  have hrun : plain.Run (fun _ _ => True) idle (es ++ fs) t :=
    (hr.mono fun _ _ _ => trivial).append (hkept.mono fun _ _ _ => trivial)
  have hlife : Life Ingestion.knowsOne exactly inDirectory "data/scollector.db" (fun _ _ => none)
      ⟨es ++ fs, t⟩
      (t.ingestion.storage.world.session.close (fun _ _ => none) "data/scollector.db") := by
    refine .mk (hobservers ▸ .refl _) ⟨fun _ => .ok 0, .blank, [], hopened.symm, ?_⟩
      (hrun.of_step _ fun _ _ _ hs => hs)
    rw [Application.subscribeObservers_eq]
    rfl
  have hnil : (lives ℕ whole Ingestion.knowsOne exactly inDirectory "data/scollector.db").Run
      (fun _ _ => True) (fun _ _ => none) [] _ := .nil _
  have hlives := (hnil.snoc trivial hlife).snoc trivial
    (.mk (.refl _) ⟨fun _ => .ok 0, _, [], rfl, rfl⟩ (.nil _))
  obtain ⟨saved, hsaved, hadds⟩ := sessions_kept (fun _ => true) inDirectory
    (by rw [hpath]; decide) (by simp [Ingestion.knowsOne, Ingestion.oneReading])
    wellFormed_blank (hpath ▸ hlives)
  refine ⟨_, _, _, hlives, hrec.trans hpub, ?_⟩
  rw [hpath] at hadds
  rcases hsaved with _ | ⟨hfirst, _ | ⟨hsecond, ⟨⟩⟩⟩
  have hwhole := (hfirst.whole hfaults ⟨hrest.1, hrest.2.2⟩ .temperature).trans (hrec.trans hpub)
  have hnothing := List.sublist_nil.1 (hsecond.sublist .temperature)
  have htopic : StorageSubsystem.topic inDirectory .temperature = "temperature" := by decide
  have htemperature := hadds .temperature
  simp only [List.flatMap_cons, List.flatMap_nil, List.append_nil, hwhole, hnothing, htopic]
    at htemperature
  exact htemperature.unique (Ingestion.adds_one 5 _)

end Collector

end SensorityCollector
