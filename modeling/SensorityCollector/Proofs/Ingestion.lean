import SensorityCollector.Ingestion
import SensorityCollector.Proofs.GetExact
import SensorityCollector.Proofs.Parse
import SensorityCollector.Proofs.PutAnswered

/-!
# Nothing is lost between a message and its table

The jobs accepted, in flight, pending and still owed by the slots not yet called make up the jobs of
all messages received, in that order. No slot throws, so none is ever left out.
-/

namespace SensorityCollector

open Sql Transition DataStorage

variable {V F κ : Type} {c : Numbers F} [Zero F] {p : Platform V F}

/-- The jobs that the slot hands over: one if the message is on its topic and an array. -/
def SensorDataObserver.jobs (p : Platform V F) (o : SensorDataObserver)
    (clock : Sensor → ℕ → Int64) (m : MqttMessage) : List (Job F κ) :=
  if o.connections._onMessageCon ∧ m.topic = o._topic then
    match p.parse m.payload with
    | some (.array _) =>
      [.put o._accessor (o._accessor.accessor.readings p (clock o._accessor) m.payload) none]
    | _ => []
  else []

theorem SensorDataObserver.slot_apply (o : SensorDataObserver) (clock : Sensor → ℕ → Int64)
    (m : MqttMessage) : o.slot (κ := κ) p clock m ⟨[], []⟩ = .ok () ⟨o.jobs p clock m, []⟩ := by
  unfold slot jobs onMessage
  by_cases hc : o.connections._onMessageCon = true
  · by_cases ht : m.topic = o._topic
    · simp only [hc, ht, if_true, and_self, DataAccessor.put_apply]
      rcases hp : p.parse m.payload with _ | _ | items | members
      · rfl
      · rfl
      · simp [Effects.process, Sensor.parseItems_eq o._accessor hp]
      · rfl
    · simp [hc, ht]
  · simp [hc]

namespace Ingestion

variable {slots : List SensorDataObserver} {w₀ : World F κ → Prop} {s t : State F κ}

def Delivery.jobs (p : Platform V F) (slots : List SensorDataObserver) (d : Delivery) :
    List (Job F κ) :=
  ((MqttClient.onMessage d.message).map fun m => slots.flatMap (·.jobs p d.clock m)).getD []

def Delivery.audience (slots : List SensorDataObserver) (d : Delivery) :
    List (Sensor × MqttMessage) :=
  ((MqttClient.onMessage d.message).map fun m => slots.map fun o => (o._accessor, m)).getD []

/-- The jobs of the slots not yet called, and who has not yet seen the message. -/
def State.owed (p : Platform V F) (s : State F κ) : List (Job F κ) :=
  (s.emitting.map fun e => e.slots.flatMap (·.jobs p e.clock e.message)).getD []

def State.unseen (s : State F κ) : List (Sensor × MqttMessage) :=
  (s.emitting.map fun e => e.slots.map fun o => (o._accessor, e.message)).getD []

structure Account (p : Platform V F) (slots : List SensorDataObserver) (s : State F κ) : Prop where
  inv : Inv s.storage
  jobs : s.storage.accepted ++ inFlight s.storage () ++ s.pending ++ s.owed p
    = s.received.flatMap (Delivery.jobs p slots)
  seen : s.seen ++ s.unseen = s.received.flatMap (Delivery.audience slots)
  free : s.emitting = none → s.free
  escaped : s.escaped = false

theorem Account.step (h : Account p slots s) {e : Event κ c} (hs : Step p slots s e t) :
    Account p slots t := by
  cases hs with
  | @receive d he =>
    obtain ⟨hp, hn⟩ := h.free he
    have hjobs := h.jobs
    have hseen := h.seen
    simp only [State.owed, State.unseen, he, Option.map_none, Option.getD_none,
      List.append_nil] at hjobs hseen
    refine ⟨h.inv, ?_, ?_, fun _ => ⟨hp, hn⟩, h.escaped⟩
    · rw [List.flatMap_append, List.flatMap_singleton, ← hjobs]
      simp [State.owed, Delivery.jobs, Function.comp_def]
    · rw [List.flatMap_append, List.flatMap_singleton, ← hseen]
      simp [State.unseen, Delivery.audience, Function.comp_def]
  | @slot m clock o rest e he hf hslot =>
    obtain ⟨hp, hn⟩ := hf
    rw [o.slot_apply] at hslot
    obtain rfl : ⟨o.jobs p clock m, []⟩ = e := by simpa using hslot
    refine ⟨h.inv, ?_, ?_, by simp, h.escaped⟩
    · rw [← h.jobs]
      simp [State.owed, he, hp]
    · rw [← h.seen]
      simp [State.unseen, he]
  | @slotThrows m clock o rest x e he hf hslot =>
    rw [o.slot_apply] at hslot
    cases hslot
  | @process job rest u hp hcall =>
    have hi := h.inv.step hcall
    cases hcall with
    | call hn =>
      refine ⟨hi, ?_, h.seen, fun he => ?_, h.escaped⟩
      · rw [← h.jobs]
        simp [State.owed, inFlight, State.setProducer, hn, hp]
      · simp [(h.free he).1] at hp
  | @returned m clock he hf =>
    refine ⟨h.inv, ?_, ?_, fun _ => hf, h.escaped⟩
    · rw [← h.jobs]
      simp [State.owed, he]
    · rw [← h.seen]
      simp [State.unseen, he]
  | @storage e u hc hstep =>
    have he : e.calledBy () = none := by cases e <;> first | rfl | cases hc
    obtain ⟨others, hq, hnone, hn⟩ := inFlight_step h.inv hstep ()
    obtain rfl := hnone fun _ => rfl
    refine ⟨h.inv.step hstep, ?_, h.seen, fun hem => ?_, h.escaped⟩
    · rw [← h.jobs]
      simp only [hq, he, Option.toList_none, List.append_nil]
      rfl
    · obtain ⟨hp, hf⟩ := h.free hem
      exact ⟨hp, hn he hf⟩

theorem account_reachable (h : (system c p slots w₀).Reachable s) : Account p slots s := by
  refine h.invariant ?_ fun _ _ _ _ ha _ hs => ha.step hs
  rintro _ ⟨w, -, rfl⟩
  exact ⟨inv_fresh w, rfl, rfl, fun _ => ⟨rfl, rfl⟩, rfl⟩

theorem run_storage {C : State F κ → Event κ c → Prop} {es : List (Event κ c)}
    (h : (system c p slots w₀).Run C s es t) :
    (DataStorage.system (config c) w₀).Run (fun _ _ => True) s.storage
      (es.filterMap Event.onStorage) t.storage := by
  refine System.Run.project (f := State.storage) (fun u e v hs => ?_) h
  cases hs with
  | process _ hcall => exact hcall
  | storage _ hstep => exact hstep
  | _ => rfl

/-- Of a list with one entry for the sensor, only that entry counts. -/
theorem flatMap_sensor {α : Type*} {S : Sensor} {f : SensorDataObserver → List α}
    {o : SensorDataObserver} (hnodup : (slots.map (·._accessor)).Nodup) (ho : o ∈ slots)
    (hS : o._accessor = S) (hf : ∀ o' ∈ slots, o'._accessor ≠ S → f o' = []) :
    slots.flatMap f = f o := by
  obtain ⟨before, after, rfl⟩ := List.append_of_mem ho
  rw [List.map_append, List.map_cons, List.nodup_middle, List.nodup_cons] at hnodup
  have hne : ∀ o' ∈ before ++ after, f o' = [] := by
    intro o' ho'
    refine hf o' (by simp at ho' ⊢; tauto) fun he => hnodup.1 ?_
    rw [hS, ← he, ← List.map_append]
    exact List.mem_map_of_mem ho'
  have hb : before.flatMap f = [] := List.flatMap_eq_nil_iff.2 fun x hx => hne x (by simp [hx])
  have ha : after.flatMap f = [] := List.flatMap_eq_nil_iff.2 fun x hx => hne x (by simp [hx])
  simp [hb, ha]

/-- What a job puts into the sensor's table if nothing fails. -/
def model (S : Sensor) : Job F κ → List (S.Data F)
  | .put S' model _ => if h : S' = S then h ▸ model else []
  | .get _ _ _ _ => []

omit [Zero F] in
theorem committed_all {S : Sensor} {jobs : List (Job F κ × Faults c)}
    (h : ∀ j ∈ jobs, ∀ n, j.2.put n = none) :
    committed S jobs = (jobs.map Prod.fst).flatMap (model S) := by
  rw [List.flatMap_map]
  refine List.flatMap_congr fun j hj => ?_
  rcases j with ⟨S' | _, o⟩
  · simp [model, h _ hj]
  · rfl

theorem createObserver_eq (config : String → Option String) :
    StorageSubsystem.createObserver config
      = [.temperature, .pressure, .gas, .humidity, .iaq, .co2, .breathVoc, .tvoc].map fun S =>
          .create (StorageSubsystem.topic config S) S := rfl

section slots

variable {config : String → Option String}
  (hslots : slots.Perm ((StorageSubsystem.createObserver config).map SensorDataObserver.setUp))

include hslots

theorem mem_slots (S : Sensor) :
    (SensorDataObserver.create (StorageSubsystem.topic config S) S).setUp ∈ slots := by
  rw [hslots.mem_iff, createObserver_eq]
  cases S <;> simp

theorem slots_nodup : (slots.map (·._accessor)).Nodup := by
  rw [(hslots.map _).nodup_iff]
  change [Sensor.temperature, .pressure, .gas, .humidity, .iaq, .co2, .breathVoc, .tvoc].Nodup
  decide

/-- What the slots put into the sensor's table. -/
theorem slots_jobs (S : Sensor) (clock : Sensor → ℕ → Int64) (m : MqttMessage) :
    (slots.flatMap fun o => o.jobs (κ := κ) p clock m).flatMap (model S)
      = if m.topic = StorageSubsystem.topic config S then
          S.accessor.readings p (clock S) m.payload else [] := by
  rw [List.flatMap_assoc, flatMap_sensor (slots_nodup hslots) (mem_slots hslots S) rfl]
  · unfold SensorDataObserver.jobs Schema.readings
    by_cases ht : m.topic = StorageSubsystem.topic config S
    · simp only [SensorDataObserver.setUp, SensorDataObserver.create, ht]
      rcases p.parse m.payload with _ | _ | items | members <;> simp [model]
    · simp [SensorDataObserver.setUp, SensorDataObserver.create, ht]
  · intro o _ hne
    have hS : ¬ o._accessor = S := hne
    unfold SensorDataObserver.jobs
    split_ifs
    · rcases p.parse m.payload with _ | _ | items | members <;> simp [model, hS]
    · rfl

theorem delivery_model (hempty : ∀ items, p.parse [] ≠ some (.array items)) (S : Sensor)
    (d : Delivery) :
    (d.jobs (κ := κ) p slots).flatMap (model S)
      = if d.message.topic = StorageSubsystem.topic config S then
          S.accessor.readings p (d.clock S) (d.message.payload.getD []) else [] := by
  have hlen := d.message.length_payload
  unfold Delivery.jobs MqttClient.onMessage
  split_ifs with hm ht ht
  · obtain ⟨-, hpos⟩ := hm
    have hpayload : (convert d.message).payload = d.message.payload.getD [] := by
      rw [convert, if_pos hpos, hlen, List.take_length]
    simp only [Option.map_some, Option.getD_some]
    rw [slots_jobs hslots, hpayload]
    exact if_pos ht
  · simp only [Option.map_some, Option.getD_some]
    rw [slots_jobs hslots]
    exact if_neg ht
  · have hnil : d.message.payload.getD [] = [] := by
      rcases hp : d.message.payload with _ | bytes
      · rfl
      · rw [hp] at hlen hm
        simpa [hlen] using hm
    rw [hnil]
    unfold Schema.readings
    rcases hp : p.parse [] with _ | _ | items | members
    · rfl
    · rfl
    · exact absurd hp (hempty items)
    · rfl
  · rfl

theorem deliveries_model (hempty : ∀ items, p.parse [] ≠ some (.array items)) (S : Sensor)
    (ds : List Delivery) :
    (ds.flatMap fun d => (d.jobs (κ := κ) p slots).flatMap (model S))
      = readings p S (StorageSubsystem.topic config S) ds := by
  simp only [delivery_model hslots hempty, readings]

end slots

section runs

def Event.lift : DataStorage.Event (Job F κ) Unit (Faults c) → Event κ c
  | .call _ job => .process job
  | e => .storage e

omit [Zero F] in
theorem onStorage_lift (es : List (DataStorage.Event (Job F κ) Unit (Faults c))) :
    (es.map Event.lift).filterMap Event.onStorage = es := by
  rw [List.filterMap_map]
  conv_rhs => rw [← List.filterMap_some (l := es)]
  congr 1
  funext e
  cases e <;> rfl

theorem lift_run {u v : DataStorage.State (Job F κ) Unit (World F κ)}
    {es : List (DataStorage.Event (Job F κ) Unit (Faults c))}
    (h : (DataStorage.system (config c) w₀).Run (fun _ _ => True) u es v) (p : Platform V F)
    (slots : List SensorDataObserver) (s : State F κ) (rest : List (Job F κ)) :
    (system c p slots w₀).Run (fun _ _ => True)
      { s with storage := u, pending := es.filterMap (DataStorage.Event.calledBy ()) ++ rest }
      (es.map Event.lift) { s with storage := v, pending := rest } := by
  induction h generalizing rest with
  | nil => exact .nil _
  | @snoc t v es e _ _ hs ih =>
    rw [List.filterMap_append, List.append_assoc, List.map_append]
    refine (ih _).snoc trivial ?_
    cases e with
    | call t job => exact .process rfl hs
    | _ => exact .storage rfl hs

def Calm (es : List (Event κ c)) : Prop :=
  ∀ o ∈ choices (es.filterMap Event.onStorage), o = .calm c

omit [Zero F] in
theorem Calm.append {es fs : List (Event κ c)} (h : Calm es) (h' : Calm fs) : Calm (es ++ fs) := by
  intro o ho
  rw [List.filterMap_append, choices_append] at ho
  rcases List.mem_append.1 ho with ho | ho
  · exact h o ho
  · exact h' o ho

omit [Zero F] in
theorem calm_lift {es : List (DataStorage.Event (Job F κ) Unit (Faults c))}
    (h : ∀ o ∈ choices es, o = .calm c) : Calm (es.map Event.lift) := by
  unfold Calm
  rwa [onStorage_lift]

/-- The storage has run all it has accepted, and the network thread is in no slot. -/
def State.resting (s : State F κ) : Prop :=
  s.pending = [] ∧ ∃ w done, s.storage = rested w done

/-- The slots of an emission are called one after the other, each with the worker running its job
before the next. -/
theorem slots_run (c : Numbers F) (w₀ : World F κ → Prop) (p : Platform V F)
    (slots rest : List SensorDataObserver) (m : MqttMessage) (clock : Sensor → ℕ → Int64)
    (hs : s.resting) (he : s.emitting = some ⟨m, clock, rest⟩) :
    ∃ (es : List (Event κ c)) (t : State F κ),
      (system c p slots w₀).Run (fun _ _ => True) s es t ∧ t.resting
        ∧ t.emitting = some ⟨m, clock, []⟩ ∧ t.received = s.received ∧ Calm es := by
  induction rest generalizing s with
  | nil => exact ⟨[], s, .nil s, hs, he, rfl, by simp [Calm, choices]⟩
  | cons o rest ih =>
    obtain ⟨hp, w, done, hst⟩ := hs
    have hslot : (system c p slots w₀).Run (fun _ _ => True) s [.slot] _ :=
      .single trivial (.slot he ⟨hp, by rw [hst]; rfl⟩ (o.slot_apply clock m))
    obtain ⟨fs, hfs, hcs, hj⟩ := jobs_run (config c) w₀ () w done
      ((o.jobs p clock m).map fun job => (job, .calm c))
    have hcalled : fs.filterMap (DataStorage.Event.calledBy ()) ++ [] = o.jobs p clock m := by
      rw [hcs, List.append_nil, List.map_map]
      exact List.map_id _
    have hcalm : ∀ o ∈ choices fs, o = .calm c := by
      rw [hfs, List.map_map]
      intro x hx
      obtain ⟨-, -, rfl⟩ := List.mem_map.1 hx
      rfl
    have hlift := lift_run hj p slots
      { s with emitting := some ⟨m, clock, rest⟩, seen := s.seen ++ [(o._accessor, m)] } []
    rw [hcalled, ← hst] at hlift
    obtain ⟨gs, t, hg, ht, hem, hrec, hcalm'⟩ := ih (s := { s with
      storage := rested _ _, pending := [], emitting := some ⟨m, clock, rest⟩,
      seen := s.seen ++ [(o._accessor, m)] }) ⟨rfl, _, _, rfl⟩ rfl
    refine ⟨[.slot] ++ fs.map Event.lift ++ gs, t, (hslot.append hlift).append hg, ht, hem, hrec,
      ?_⟩
    exact (Calm.append (by simp [Calm, choices, Event.onStorage]) (calm_lift hcalm)).append hcalm'

/-- Whatever is delivered, there is a run that takes it in with nothing failing. -/
theorem exists_ingestion (c : Numbers F) (w₀ : World F κ → Prop) (p : Platform V F)
    (slots : List SensorDataObserver) (w : World F κ) (received : List Delivery) :
    ∃ (es : List (Event κ c)) (s : State F κ),
      (system c p slots w₀).Run (fun _ _ => True) (start w) es s ∧ s.resting ∧ s.emitting = none
        ∧ s.received = received ∧ Calm es := by
  induction received using List.reverseRecOn with
  | nil =>
    obtain ⟨es, hes, hcs, hr⟩ := setUp_run (T := Unit) (config c) w₀ w
    have hlift := lift_run hr p slots (start w) []
    rw [hcs ()] at hlift
    exact ⟨_, _, hlift, ⟨rfl, _, _, rfl⟩, rfl, rfl, calm_lift (by simp [hes])⟩
  | append_singleton received d ih =>
    obtain ⟨es, s, hr, hs, he, hrec, hcalm⟩ := ih
    have hreceive := hr.snoc trivial (.receive (d := d) he)
    have hd : Calm [(.receive d : Event κ c)] := by simp [Calm, choices, Event.onStorage]
    rcases hm : MqttClient.onMessage d.message with _ | m
    · exact ⟨_, _, hreceive, hs, by simp [hm], by simp [hrec], hcalm.append hd⟩
    · obtain ⟨fs, t, hf, ht, hem, hrec', hcalmf⟩ := slots_run c w₀ p slots slots m d.clock
        (s := { s with received := s.received ++ [d], emitting := some ⟨m, d.clock, slots⟩ }) hs rfl
      rw [hm] at hreceive
      obtain ⟨hp, w', done, hst⟩ := ht
      exact ⟨_, _, (hreceive.append hf).snoc trivial (.returned hem ⟨hp, by rw [hst]; rfl⟩),
        ⟨hp, w', done, hst⟩, rfl, by simp [hrec', hrec],
        ((hcalm.append hd).append hcalmf).append (by simp [Calm, choices, Event.onStorage])⟩

end runs

/-- The rows of the readings in the messages record the elements that have arrived. -/
theorem records_arrivals (c : Numbers F) (p : Platform V F) (S : Sensor) (topic : String)
    (received : List Delivery) :
    List.Forall₂ (fun element row => S.Records p element.1 element.2 row)
      (arrivals p S topic received)
      ((readings p S topic received).map (S.accessor.row c S.definition)) := by
  induction received with
  | nil => exact .nil
  | cons d received ih =>
    unfold arrivals readings
    rw [List.flatMap_cons, List.flatMap_cons, List.map_append]
    refine List.rel_append ?_ ih
    split_ifs
    · unfold Schema.readings
      rcases p.parse (d.message.payload.getD []) with _ | _ | items | members
      · exact .nil
      · exact .nil
      · exact S.records_items c (d.clock S) items
      · exact .nil
    · exact .nil

/-- Between two messages, the jobs accepted are those of all messages received. -/
theorem Account.accepted (h : Account p slots s) (he : s.emitting = none) :
    s.storage.accepted = s.received.flatMap (Delivery.jobs p slots) := by
  obtain ⟨hp, hn⟩ := h.free he
  simpa [State.owed, he, hp, inFlight, hn] using h.jobs

section stored

variable {w : World F κ} (hidle : w.Idle) (hw : DataStorage.WellFormed w.session.database)
  {es : List (Event κ c)} (h : (system c p slots (· = w)).Run (fun _ _ => True) (start w) es s)
  (hfaults : ∀ o ∈ choices (es.filterMap Event.onStorage), ∀ n, o.put n = none)

include hidle hw h hfaults

/-- Whatever is still under way, a table holds what the finished jobs have put into it. -/
theorem stored_finished (hactive : s.storage.active = true) (S : Sensor) :
    Stored c s.storage.world.session.database S
      (S.collected c w.session.database ++ s.storage.finished.flatMap (model S)) := by
  have hrep := represents_collected (c := c) hidle hw
  have hrun := (run_storage h).of_step (DataStorage.system (DataStorage.config c)
    (Represents c (w.collected c))) fun _ _ _ hs => hs
  obtain ⟨hlen, -⟩ := collected_run hrep hrun
  have hst := stored_run hrep hrun (.inl hactive) S
  rwa [runs_rows, committed_all fun j hj => hfaults _ (List.of_mem_zip hj).2,
    List.map_fst_zip hlen.le] at hst

/-- With nothing under way, it has a row for each element that has arrived. -/
theorem adds_received {config : String → Option String}
    (hslots : slots.Perm ((StorageSubsystem.createObserver config).map SensorDataObserver.setUp))
    (hempty : ∀ items, p.parse [] ≠ some (.array items)) (he : s.emitting = none)
    (hdrained : s.storage.finished = s.storage.accepted) (hactive : s.storage.active = true)
    (S : Sensor) :
    ∃ rows, s.storage.world.session.database S.definition.1 = some ⟨S.definition.2, rows⟩
      ∧ S.Adds p (arrivals p S (StorageSubsystem.topic config S) s.received)
        (S.rows w.session.database) rows := by
  have hinit : (system c p slots (· = w)).init (start w) := ⟨w, rfl, rfl⟩
  have hacc := account_reachable (h.reachableBy (.init hinit))
  have hst := stored_finished hidle hw h hfaults hactive S
  rw [hdrained, hacc.accepted he, List.flatMap_assoc, deliveries_model hslots hempty] at hst
  exact ⟨_, Sensor.stored_behind hw hst, _, rfl, records_arrivals c p S _ s.received⟩

end stored

/-- Whatever messages the client receives, and however the storage's worker comes in: no exception
leaves the message signal, every observer sees every message that is emitted, and once the queue is
drained each table holds its former rows and one for each element with all numbers of its sensor in
the messages on the topic, with these numbers under the names of its columns. -/
theorem ingestion_exact {w : World F κ} (hidle : w.Idle)
    (hw : DataStorage.WellFormed w.session.database) {config : String → Option String}
    (hslots : slots.Perm ((StorageSubsystem.createObserver config).map SensorDataObserver.setUp))
    (hempty : ∀ items, p.parse [] ≠ some (.array items)) {es : List (Event κ c)}
    (h : (system c p slots (· = w)).Run (fun _ _ => True) (start w) es s)
    (hfaults : ∀ o ∈ choices (es.filterMap Event.onStorage), ∀ n, o.put n = none) :
    s.escaped = false
      ∧ (s.emitting = none → s.seen = s.received.flatMap (Delivery.audience slots))
      ∧ (s.emitting = none → s.storage.finished = s.storage.accepted → s.storage.active = true →
          ∀ S : Sensor, ∃ rows,
            s.storage.world.session.database S.definition.1 = some ⟨S.definition.2, rows⟩
              ∧ S.Adds p (arrivals p S (StorageSubsystem.topic config S) s.received)
                (S.rows w.session.database) rows) := by
  have hinit : (system c p slots (· = w)).init (start w) := ⟨w, rfl, rfl⟩
  have hacc := account_reachable (h.reachableBy (.init hinit))
  refine ⟨hacc.escaped, fun he => ?_, fun he hdrained hactive S =>
    adds_received hidle hw h hfaults hslots hempty he hdrained hactive S⟩
  have hseen := hacc.seen
  simpa [State.unseen, he] using hseen

/-- The text of an array with one object, with a `value` of `1` and a `raw` of `2`. -/
def oneReading : List UInt8 :=
  [91, 123, 34, 118, 97, 108, 117, 101, 34, 58, 49, 44, 34, 114, 97, 119, 34, 58, 50, 125, 93]

def knowsOne : Platform ℤ ℤ where
  parse input :=
    if input = oneReading then
      some (.array [.object [("value", .scalar 1), ("raw", .scalar 2)]])
    else none
  convert
    | .scalar x => some x
    | .array _ | .object _ => none
  numbers := whole

def deliver (topic : String) (payload : List UInt8) : Delivery where
  message := ⟨1, topic, some payload, payload.length, 1, false, rfl⟩
  clock _ n := Int64.ofNat (5 + n)

/-- A database with one temperature, and no other table. -/
def oneRow : Database ℤ := fun name =>
  if name = "TemperatureData" then
    some ⟨DataStorage.TemperatureDataDefinition.2,
      [[("Value", .real 7), ("Raw", .real 8), ("Timestamp", .integer 3)]]⟩
  else none

theorem oneRow_wellFormed : DataStorage.WellFormed oneRow := by
  intro d hd t ht
  unfold oneRow at ht
  split_ifs at ht with hname
  obtain rfl := Option.some.inj ht
  obtain ⟨S, rfl⟩ := Sensor.of_mem_tables hd
  obtain rfl : S = .temperature := Sensor.definition_injective hname
  refine ⟨rfl, fun row hrow => ?_⟩
  obtain rfl := List.mem_singleton.1 hrow
  rfl

theorem adds_one (t : Int64) (former : List (Row ℤ)) : Sensor.temperature.Adds knowsOne
    [(.object [("value", .scalar 1), ("raw", .scalar 2)], t)] former
    (former ++ [[("Value", .real 1), ("Raw", .real 2), ("Timestamp", .integer t)]]) := by
  refine ⟨_, rfl, .cons ⟨rfl, rfl, _, rfl, fun column hcolumn => ?_⟩ .nil⟩
  fin_cases hcolumn
  · exact ⟨1, rfl, rfl⟩
  · exact ⟨2, rfl, rfl⟩

theorem adds_none {S : Sensor} (former : List (Row ℤ)) : S.Adds knowsOne [] former former :=
  ⟨[], by simp, .nil⟩

/-- The one text on the topic of the temperatures, on a topic of nobody's, and something that is
not JSON in between. -/
theorem ingestion_exact_one : ∃ s : State ℤ ℕ, s.storage.active = true ∧ s.received.length = 3
    ∧ s.escaped = false
    ∧ Sensor.temperature.rows s.storage.world.session.database
      = [[("Value", .real 7), ("Raw", .real 8), ("Timestamp", .integer 3)],
        [("Value", .real 1), ("Raw", .real 2), ("Timestamp", .integer 5)]]
    ∧ Sensor.humidity.rows s.storage.world.session.database = [] := by
  obtain ⟨es, s, h, ⟨hp, w, done, hst⟩, he, hrec, hcalm⟩ := exists_ingestion whole
    (· = (⟨⟨oneRow, none⟩, []⟩ : World ℤ ℕ)) knowsOne
    ((StorageSubsystem.createObserver fun _ => none).map SensorDataObserver.setUp) _
    [deliver "temperature" oneReading, deliver "temperature" [63], deliver "garage" oneReading]
  have hactive : s.storage.active = true := by rw [hst]; rfl
  obtain ⟨hescaped, -, hstored⟩ := ingestion_exact (w := ⟨⟨oneRow, none⟩, []⟩) rfl
    oneRow_wellFormed (.refl _)
    (by simp [knowsOne, oneReading]) h fun o ho n => by
      rw [hcalm o ho, Faults.calm_put]
  have hadds := hstored he (by rw [hst]; rfl) hactive
  rw [hrec] at hadds
  obtain ⟨rows, hrows, htemperature⟩ := hadds .temperature
  obtain ⟨rows', hrows', hhumidity⟩ := hadds .humidity
  refine ⟨s, hactive, by rw [hrec]; rfl, hescaped, ?_, ?_⟩
  · rw [Sensor.rows, hrows]
    exact htemperature.unique (adds_one 5 _)
  · rw [Sensor.rows, hrows']
    exact hhumidity.unique (adds_none _)

end Ingestion

end SensorityCollector
