import SensorityCollector.Collector
import SensorityCollector.Proofs.Ingestion
import SensorityCollector.Proofs.Settled

/-!
# What becomes of a published message

The steps of the collector are steps of the application or of the ingestion
(`reachable_application`, `run_ingestion`), and a message that the broker has sent, as it was
published or retained, is received, under way or dropped. While a connection lasts none is dropped,
and once the broker has served what it was asked for, all topics are routed and nothing that was
retained is sent again.
-/

namespace SensorityCollector

open Sql Transition DataStorage

namespace Collector

open Ingestion (Delivery arrivals readings)

variable {V F κ : Type} {c : Numbers F} {p : Platform V F} [Zero F]
  {routes : List String → String → Bool} {observers : List SensorDataObserver}
  {config : String → Option String} {w₀ : World F κ → Prop} {s t : State F κ} {e : Event κ c}
  {C : State F κ → Event κ c → Prop}

/-- The messages published in the course of a run. -/
def published (es : List (Event κ c)) : List Delivery :=
  es.filterMap fun
    | .publish d _ => some d
    | _ => none

/-- The messages that the broker may send to the client in the course of a run: each that is
published, and those it sends again because they were retained. -/
def sendable (es : List (Event κ c)) : List Delivery :=
  es.flatMap fun
    | .publish d _ => [d]
    | .network _ resent => resent
    | _ => []

def Event.onStorage : Event κ c → Option (DataStorage.Event (Job F κ) Unit (Faults c))
  | .ingest e => e.onStorage
  | _ => none

omit [Zero F] in
theorem passes_sublist (d : Delivery) : (s.passes routes d).Sublist [d] := by
  unfold State.passes
  split
  · exact .refl _
  · exact List.nil_sublist _

/-! ## The parts -/

theorem reachable_application {D : Sharing.State → Sharing.Event → Prop}
    (hobservers : observers.Perm (StorageSubsystem.createObserver config))
    (hC : ∀ s e resent, C s (.network e resent) → D s.sharing e)
    (h : (system c p routes observers w₀).ReachableBy C s) :
    (Application.system config).ReachableBy D s.sharing := by
  induction h with
  | init hi =>
    obtain ⟨call, w, retained, -, rfl⟩ := hi
    exact .init ⟨call, observers, hobservers, rfl⟩
  | step _ hc hs ih =>
    cases hs with
    | network he _ hst _ => exact ih.step (hC _ _ _ hc) ⟨he, hst⟩
    | publish => exact ih
    | deliver => exact ih
    | ingest => exact ih

theorem run_ingestion {es : List (Event κ c)}
    (h : (system c p routes observers w₀).Run C s es t) :
    ∃ fs, (Ingestion.system c p (CompositeDataObserver.setUp observers) w₀).Run (fun _ _ => True)
        s.ingestion fs t.ingestion
      ∧ fs.filterMap Ingestion.Event.onStorage = es.filterMap Event.onStorage := by
  induction h with
  | nil => exact ⟨[], .nil _, rfl⟩
  | @snoc u v es e _ _ hs ih =>
    obtain ⟨fs, hr, hfs⟩ := ih
    cases hs with
    | network _ _ _ _ => exact ⟨fs, hr, by simp [hfs, Event.onStorage]⟩
    | publish => exact ⟨fs, hr, by simp [hfs, Event.onStorage]⟩
    | deliver _ _ hst =>
      exact ⟨_, hr.snoc trivial hst, by rw [List.filterMap_append, List.filterMap_append, hfs]; rfl⟩
    | ingest _ hst =>
      exact ⟨_, hr.snoc trivial hst, by rw [List.filterMap_append, List.filterMap_append, hfs]; rfl⟩

theorem received_eq {f : Ingestion.Event κ c} {x y : Ingestion.State F κ}
    {slots : List SensorDataObserver} (hf : receives f = false)
    (hs : Ingestion.Step p slots x f y) : y.received = x.received := by
  cases hs with
  | receive _ => cases hf
  | _ => rfl

/-! ## Where a message is -/

/-- Everything sent to the client has been received, is under way or was dropped with a connection;
what was not dropped keeps its order. -/
structure Conserves (s : State F κ) : Prop where
  sublist : (s.ingestion.received ++ s.downstream).Sublist s.routed
  perm : s.routed.Perm (s.ingestion.received ++ s.downstream ++ s.dropped)

omit [Zero F] in
/-- The broker sends something more. -/
theorem Conserves.send (h : Conserves s) (ds : List Delivery) :
    Conserves { s with downstream := s.downstream ++ ds, routed := s.routed ++ ds } where
  sublist := by simpa [← List.append_assoc] using h.sublist.append_right ds
  perm := by
    have hswap : (s.dropped ++ ds).Perm (ds ++ s.dropped) := List.perm_append_comm
    refine (h.perm.append_right ds).trans ?_
    simpa using (hswap.append_left s.downstream).append_left s.ingestion.received

omit [Zero F] in
/-- The connection is lost with what is under way. -/
theorem Conserves.lose (h : Conserves s) :
    Conserves { s with downstream := [], dropped := s.dropped ++ s.downstream } where
  sublist := by simpa using (List.sublist_append_left _ _).trans h.sublist
  perm := by
    have hswap : (s.downstream ++ s.dropped).Perm (s.dropped ++ s.downstream) :=
      List.perm_append_comm
    refine h.perm.trans ?_
    simpa using hswap.append_left s.ingestion.received

theorem Conserves.step (h : Conserves s)
    (hs : (system c p routes observers w₀).step s e t) : Conserves t := by
  cases hs with
  | @network _ resent u _ _ _ _ =>
    have hsend := h.send resent
    cases hu : u.connected with
    | false => exact ⟨hsend.lose.sublist, hsend.lose.perm⟩
    | true => simpa using ⟨hsend.sublist, hsend.perm⟩
  | @publish d retain =>
    have hsend := h.send (s.passes routes d)
    exact ⟨hsend.sublist, hsend.perm⟩
  | @deliver d rest u _ hd hst =>
    obtain ⟨hsub, hperm⟩ := h
    cases hst with
    | receive _ =>
      rw [hd] at hsub hperm
      exact ⟨by simpa using hsub, by simpa using hperm⟩
  | ingest he hst =>
    obtain ⟨hsub, hperm⟩ := h
    have hreceived := received_eq he hst
    exact ⟨by simpa only [hreceived] using hsub, by simpa only [hreceived] using hperm⟩

theorem conserves (h : (system c p routes observers w₀).ReachableBy C s) : Conserves s := by
  refine h.invariant ?_ fun _ _ _ _ hp _ hs => hp.step hs
  rintro _ ⟨call, w, retained, -, rfl⟩
  exact ⟨.refl _, .refl _⟩

/-- What is sent is published or sent again, once and in its order. -/
theorem routed_run {es : List (Event κ c)} (h : (system c p routes observers w₀).Run C s es t) :
    ∃ sent, sent.Sublist (sendable es) ∧ t.routed = s.routed ++ sent := by
  induction h with
  | nil => exact ⟨[], .refl _, by simp⟩
  | @snoc u v es e _ _ hs ih =>
    obtain ⟨sent, hsent, hrouted⟩ := ih
    have hmore : ∃ more, more.Sublist (sendable [e]) ∧ v.routed = u.routed ++ more := by
      cases hs with
      | @network e resent _ _ _ _ _ => exact ⟨resent, by simp [sendable], rfl⟩
      | @publish d retain => exact ⟨u.passes routes d, passes_sublist d, rfl⟩
      | deliver _ _ _ => exact ⟨[], .refl _, by simp⟩
      | ingest _ _ => exact ⟨[], .refl _, by simp⟩
    obtain ⟨more, hmore, hv⟩ := hmore
    refine ⟨sent ++ more, ?_, by rw [hv, hrouted, List.append_assoc]⟩
    rw [sendable, List.flatMap_append]
    exact hsent.append hmore

theorem routed_init (hinit : (system c p routes observers w₀).init s) : s.routed = [] := by
  obtain ⟨call, w, retained, -, rfl⟩ := hinit
  rfl

theorem sent_routed (hinit : (system c p routes observers w₀).init s) {es : List (Event κ c)}
    (h : (system c p routes observers w₀).Run C s es t) : t.routed.Sublist (sendable es) := by
  obtain ⟨sent, hsent, hrouted⟩ := routed_run h
  rw [routed_init hinit, List.nil_append] at hrouted
  exact hrouted ▸ hsent

omit [Zero F] in
theorem mem_keep {m : String × List UInt8} {retained : List (String × List UInt8)} {d : Delivery}
    (h : m ∈ keep retained d) : m ∈ retained ∨ m = d.content := by
  rcases List.mem_append.1 h with h | h
  · exact .inl (List.mem_filter.1 h).1
  · split_ifs at h
    · cases h
    · exact .inr (List.mem_singleton.1 h)

omit [Zero F] in
theorem waiting_subset (f : Sharing.Event) : s.waiting routes f ⊆ s.retained := by
  unfold State.waiting
  split
  · split
    · split_ifs
      · exact List.nil_subset _
      · exact List.filter_subset_self _
    · exact List.nil_subset _
  · exact List.nil_subset _

/-- The broker had retained the message at the start, or it has been published since. -/
def Known (s : State F κ) (es : List (Event κ c)) (m : String × List UInt8) : Prop :=
  m ∈ s.retained ∨ m ∈ (published es).map Delivery.content

omit [Zero F] in
theorem Known.mono {m : String × List UInt8} {es : List (Event κ c)} (h : Known s es m)
    (e : Event κ c) : Known s (es ++ [e]) m := by
  refine h.imp_right fun hm => ?_
  rw [published, List.filterMap_append, List.map_append]
  exact List.mem_append_left _ hm

/-- Nothing is retained or sent again that was not published before. -/
theorem known_run {es : List (Event κ c)} (h : (system c p routes observers w₀).Run C s es t) :
    (∀ m ∈ t.retained, Known s es m) ∧ ∀ d ∈ t.routed, d ∈ s.routed ∨ d ∈ published es
      ∨ d.message.retain = true ∧ Known s es d.content := by
  induction h with
  | nil => exact ⟨fun m hm => .inl hm, fun d hd => .inl hd⟩
  | @snoc u v es e _ _ hs ih =>
    obtain ⟨hretained, hrouted⟩ := ih
    have hpub : published es ⊆ published (es ++ [e]) := by
      rw [published, published, List.filterMap_append]
      exact List.subset_append_left ..
    have hold : ∀ d ∈ u.routed, d ∈ s.routed ∨ d ∈ published (es ++ [e])
        ∨ d.message.retain = true ∧ Known s (es ++ [e]) d.content := fun d hd =>
      (hrouted d hd).imp_right fun h => h.imp (fun hd => hpub hd) fun h => ⟨h.1, h.2.mono e⟩
    cases hs with
    | @network f resent x _ _ _ hr =>
      refine ⟨fun m hm => (hretained m hm).mono _, fun d hd => ?_⟩
      rcases List.mem_append.1 hd with hd | hd
      · exact hold d hd
      · have hwaiting := hr.1.subset (List.mem_map_of_mem hd)
        exact .inr (.inr ⟨hr.2 d hd, (hretained _ (waiting_subset f hwaiting)).mono _⟩)
    | @publish d retain =>
      have hd : d ∈ published (es ++ [.publish d retain]) := by
        simp [published]
      refine ⟨fun m hm => ?_, fun d' hd' => ?_⟩
      · have hm' : m ∈ u.retained ∨ m = d.content := by
          unfold State.route at hm
          dsimp only at hm
          split_ifs at hm
          · exact mem_keep hm
          · exact .inl hm
        rcases hm' with hm' | rfl
        · exact (hretained m hm').mono _
        · exact .inr (List.mem_map_of_mem hd)
      · rcases List.mem_append.1 hd' with hd' | hd'
        · exact hold d' hd'
        · obtain rfl := List.mem_singleton.1 ((passes_sublist d).subset hd')
          exact .inr (.inl hd)
    | deliver _ _ _ => exact ⟨fun m hm => (hretained m hm).mono _, hold⟩
    | ingest _ _ => exact ⟨fun m hm => (hretained m hm).mono _, hold⟩

/-! ## What is stored -/

/-- The network thread is in no slot, and the worker has nothing left to do. -/
def State.rested (s : State F κ) : Prop :=
  s.ingestion.emitting = none ∧ s.ingestion.storage.active = true
    ∧ s.ingestion.storage.finished = s.ingestion.storage.accepted

section tables

variable {w : World F κ} (hidle : w.Idle) (hw : DataStorage.WellFormed w.session.database)
  (hobservers : observers.Perm (StorageSubsystem.createObserver config))
  (hempty : ∀ items, p.parse [] ≠ some (.array items)) {es : List (Event κ c)}

include hidle hw hobservers hempty

/-- At rest, the tables have a row for each element of all messages received. -/
theorem adds_received (hinit : (system c p routes observers (· = w)).init s)
    (h : (system c p routes observers (· = w)).Run C s es t)
    (hfaults : ∀ o ∈ choices (es.filterMap Event.onStorage), ∀ n, o.put n = none)
    (hrest : t.rested) (S : Sensor) :
    ∃ rows, t.ingestion.storage.world.session.database S.definition.1
        = some ⟨S.definition.2, rows⟩
      ∧ S.Adds p (arrivals p S (StorageSubsystem.topic config S) t.ingestion.received)
        (S.rows w.session.database) rows := by
  obtain ⟨call, w', retained, rfl, rfl⟩ := hinit
  obtain ⟨he, hactive, hdrained⟩ := hrest
  obtain ⟨fs, hr, hfs⟩ := run_ingestion h
  rw [← hfs] at hfaults
  exact Ingestion.adds_received hidle hw hr hfaults (hobservers.map _) hempty he hdrained hactive S

/-- Whatever becomes of the connection: what the broker sends was published or retained, it is
received in that order, once, unless it is under way or was when a connection was lost, and if no
put fails the tables have a row for each element that was received, and no other. -/
theorem collects_published (hinit : (system c p routes observers (· = w)).init s)
    (h : (system c p routes observers (· = w)).Run (fun _ _ => True) s es t) :
    t.routed.Sublist (sendable es)
      ∧ (∀ d ∈ t.routed, d ∈ published es ∨ d.message.retain = true ∧ Known s es d.content)
      ∧ t.routed.Perm (t.ingestion.received ++ t.downstream ++ t.dropped)
      ∧ (t.ingestion.received ++ t.downstream).Sublist t.routed
      ∧ ((∀ o ∈ choices (es.filterMap Event.onStorage), ∀ n, o.put n = none) → t.rested →
        ∀ S : Sensor, ∃ rows, t.ingestion.storage.world.session.database S.definition.1
            = some ⟨S.definition.2, rows⟩
          ∧ S.Adds p (arrivals p S (StorageSubsystem.topic config S) t.ingestion.received)
            (S.rows w.session.database) rows) := by
  have hcons := conserves (h.reachableBy (.init hinit))
  refine ⟨sent_routed hinit h, fun d hd => ?_, hcons.perm, hcons.sublist, fun hfaults hrest S =>
    adds_received hidle hw hobservers hempty hinit h hfaults hrest S⟩
  refine ((known_run h).2 d hd).resolve_left ?_
  simp [routed_init hinit]

end tables

/-! ## While the connection lasts -/

/-- The messages on the topic, in their order. -/
def onTopic (topic : String) (ds : List Delivery) : List Delivery :=
  ds.filter fun d => d.message.topic = topic

theorem onTopic_append (topic : String) (ds ds' : List Delivery) :
    onTopic topic (ds ++ ds') = onTopic topic ds ++ onTopic topic ds' := List.filter_append ..

omit [Zero F] in
theorem arrivals_onTopic (p : Platform V F) (S : Sensor) (topic : String) (ds : List Delivery) :
    arrivals p S topic (onTopic topic ds) = arrivals p S topic ds := by
  induction ds with
  | nil => rfl
  | cons d ds ih =>
    unfold arrivals onTopic at ih ⊢
    by_cases ht : d.message.topic = topic
    · simp [ht, ih]
    · simp [ht, ih]

omit [Zero F] in
/-- What is published on a topic that the broker has subscribed is sent. -/
theorem onTopic_passes (hroutes : ∀ held topic, topic ∈ held → routes held topic = true)
    (hup : s.sharing.connected = true) {topic : String} (hheld : topic ∈ s.sharing.held)
    (d : Delivery) : onTopic topic (s.passes routes d) = onTopic topic [d] := by
  unfold State.passes
  by_cases ht : d.message.topic = topic
  · simp [hup, hroutes _ _ (ht ▸ hheld)]
  · split
    · rfl
    · simp [onTopic, ht]

omit [Zero F] in
theorem resends_none (f : Sharing.Event) : s.Resends routes f [] := by
  simp [State.Resends, List.nil_subperm]

omit [Zero F] in
theorem resends_nil {f : Sharing.Event} {resent : List Delivery} (h : s.Resends routes f resent)
    (hnone : s.waiting routes f = []) : resent = [] := by
  have hsub := h.1
  rw [hnone, List.subperm_nil, List.map_eq_nil_iff] at hsub
  exact hsub

/-- The connection is not lost. -/
def Kept (_ : State F κ) : Event κ c → Prop
  | .network e _ => e ≠ .disconnect
  | _ => True

/-- Nothing is left that the broker has not served, and it has a subscription for the topic. -/
structure Served (topic : String) (s : State F κ) : Prop where
  connected : s.sharing.connected = true
  sent : s.sharing.sent = []
  held : topic ∈ s.sharing.held

omit [Zero F] in
/-- On a connection with nothing left to be served, only acknowledgements are left. -/
theorem Served.network {topic : String} (h : Served topic s) {f : Sharing.Event}
    {x : Sharing.State} {resent : List Delivery} (hf : f ≠ .disconnect)
    (hs : (Application.system config).step s.sharing f x) (hr : s.Resends routes f resent) :
    Served topic { s with sharing := x } ∧ resent = [] := by
  cases Application.step_served hs with
  | connect rc mid _ hdown => simp [h.connected] at hdown
  | disconnect => exact absurd rfl hf
  | serve r rest qos _ hsent => simp [h.sent] at hsent
  | acknowledge a _ _ => exact ⟨⟨h.connected, h.sent, h.held⟩, resends_nil hr rfl⟩

/-- While the connection lasts, what has been received and is under way on the topic grows by what
is published on it. -/
theorem kept_run (hroutes : ∀ held topic, topic ∈ held → routes held topic = true)
    {topic : String} (hs : Served topic s) {es : List (Event κ c)}
    (h : (system c p routes observers w₀).Run Kept s es t) :
    Served topic t ∧ onTopic topic (t.ingestion.received ++ t.downstream)
      = onTopic topic (s.ingestion.received ++ s.downstream ++ published es) := by
  induction h with
  | nil => exact ⟨hs, by simp [published]⟩
  | @snoc u v es e hr hc hst ih =>
    obtain ⟨hu, hread⟩ := ih
    have hmore : onTopic topic (s.ingestion.received ++ s.downstream ++ published (es ++ [e]))
        = onTopic topic (u.ingestion.received ++ u.downstream ++ published [e]) := by
      rw [published, List.filterMap_append, ← List.append_assoc, onTopic_append, ← published,
        ← hread, ← onTopic_append]
      rfl
    rw [hmore]
    cases hst with
    | @network f resent x he _ hst hresends =>
      have hserved : (Application.system fun _ => none).step u.sharing f x := ⟨he, hst⟩
      obtain ⟨hx, rfl⟩ := hu.network hc hserved hresends
      have hup : x.connected = true := hx.connected
      exact ⟨⟨hx.connected, hx.sent, hx.held⟩, by simp [hup, published, onTopic]⟩
    | @publish d retain =>
      refine ⟨⟨hu.connected, hu.sent, hu.held⟩, ?_⟩
      change onTopic topic (u.ingestion.received ++ (u.downstream ++ u.passes routes d))
        = onTopic topic (u.ingestion.received ++ u.downstream ++ [d])
      rw [← List.append_assoc, onTopic_append, onTopic_passes hroutes hu.connected hu.held,
        ← onTopic_append]
    | @deliver d rest x _ hd hst =>
      refine ⟨⟨hu.connected, hu.sent, hu.held⟩, ?_⟩
      cases hst with
      | receive _ => simp [hd, published, onTopic]
    | ingest he hst =>
      refine ⟨⟨hu.connected, hu.sent, hu.held⟩, ?_⟩
      simp [received_eq he hst, published, onTopic]

/-- The library rejects no request, and the broker refuses none. -/
def Granting (s : State F κ) : Event κ c → Prop
  | .network e _ => Application.Granted s.sharing e
  | _ => True

/-- When the broker has served all that it was asked for, it has every sensor's topic. -/
theorem served_of_sent (hobservers : observers.Perm (StorageSubsystem.createObserver config))
    (h : (system c p routes observers w₀).ReachableBy Granting s)
    (hup : s.sharing.connected = true) (hsent : s.sharing.sent = []) (S : Sensor) :
    Served (StorageSubsystem.topic config S) s := by
  refine ⟨hup, hsent, ?_⟩
  have happ := reachable_application (D := Application.Granted) hobservers
    (fun _ _ _ hc => hc) h
  have hmem : StorageSubsystem.topic config S
      ∈ (StorageSubsystem.createObserver config).map fun o => o._topic := by
    cases S <;> simp [StorageSubsystem.createObserver, StorageSubsystem.topic,
      SensorDataObserver.create]
  obtain ⟨o, ho, htopic⟩ := List.mem_map.1 ((Application.topics_reachable happ).mem_iff.2 hmem)
  have hcovered := Application.covered happ hup o ho
  rw [htopic] at hcovered
  simpa [hsent] using hcovered

/-- Once the broker has served what it was asked for on a connection, all that is published on a
sensor's topic while the connection lasts is stored, in its order and once, behind what has arrived
before, however the threads take turns and whatever was lost before. -/
theorem collects_all {w : World F κ} (hidle : w.Idle)
    (hw : DataStorage.WellFormed w.session.database)
    (hobservers : observers.Perm (StorageSubsystem.createObserver config))
    (hempty : ∀ items, p.parse [] ≠ some (.array items))
    (hroutes : ∀ held topic, topic ∈ held → routes held topic = true) {u : State F κ}
    (hinit : (system c p routes observers (· = w)).init s) {es es' : List (Event κ c)}
    (h : (system c p routes observers (· = w)).Run Granting s es u)
    (hup : u.sharing.connected = true) (hsent : u.sharing.sent = [])
    (h' : (system c p routes observers (· = w)).Run Kept u es' t)
    (hfaults : ∀ o ∈ choices ((es ++ es').filterMap Event.onStorage), ∀ n, o.put n = none)
    (hrest : t.rested) (hdown : t.downstream = []) (S : Sensor) :
    ∃ rows, t.ingestion.storage.world.session.database S.definition.1
        = some ⟨S.definition.2, rows⟩
      ∧ S.Adds p (arrivals p S (StorageSubsystem.topic config S)
          (u.ingestion.received ++ u.downstream ++ published es'))
        (S.rows w.session.database) rows := by
  have hserved := served_of_sent hobservers (h.reachableBy (.init hinit)) hup hsent S
  obtain ⟨-, hread⟩ := kept_run hroutes hserved h'
  have hall := (h.mono fun _ _ _ => trivial).append (h'.mono fun _ _ _ => trivial)
  have hadds := adds_received hidle hw hobservers hempty hinit hall hfaults hrest S
  rwa [← arrivals_onTopic p S _ (_ ++ published es'), ← hread, hdown, List.append_nil,
    arrivals_onTopic]

/-! ## Runs -/

/-- The message that the step takes in. -/
def taken : Ingestion.Event κ c → Option Delivery
  | .receive d => some d
  | _ => none

theorem run_received {x y : Ingestion.State F κ} {slots : List SensorDataObserver}
    {fs : List (Ingestion.Event κ c)} {D : Ingestion.State F κ → Ingestion.Event κ c → Prop}
    (h : (Ingestion.system c p slots w₀).Run D x fs y) :
    y.received = x.received ++ fs.filterMap taken := by
  induction h with
  | nil => simp
  | snoc _ _ hs ih =>
    rw [List.filterMap_append]
    cases hs with
    | receive _ => simp [ih, taken]
    | _ => simpa [List.filterMap_cons, taken] using ih

/-- Whatever is ingested may have been published in its order on a connection that lasts. -/
theorem exists_published {x y : Ingestion.State F κ} {fs : List (Ingestion.Event κ c)}
    (h : (Ingestion.system c p (CompositeDataObserver.setUp observers) w₀).Run (fun _ _ => True)
      x fs y) (hx : s.ingestion = x) (hup : s.sharing.connected = true) (hdown : s.downstream = [])
    (hroutes : ∀ d ∈ fs.filterMap taken, routes s.sharing.held d.message.topic = true) :
    ∃ es t, (system c p routes observers w₀).Run Kept s es t ∧ t.ingestion = y
      ∧ t.sharing = s.sharing ∧ t.downstream = [] ∧ published es = fs.filterMap taken
      ∧ es.filterMap Event.onStorage = fs.filterMap Ingestion.Event.onStorage := by
  induction h with
  | nil => exact ⟨[], s, .nil s, hx, rfl, hdown, rfl, rfl⟩
  | @snoc y z fs f _ _ hst ih =>
    obtain ⟨es, u, hr, hu, hshare, hempty, hpub, hstore⟩ :=
      ih fun d hd => hroutes d (by rw [List.filterMap_append]; exact List.mem_append_left _ hd)
    by_cases hf : receives f = true
    · obtain ⟨d, rfl⟩ : ∃ d, f = .receive d := by
        cases f with
        | receive d => exact ⟨d, rfl⟩
        | _ => cases hf
      have hroute : u.route routes d false
          = { u with downstream := u.downstream ++ [d], routed := u.routed ++ [d] } := by
        have := hroutes d (by simp [taken])
        rw [State.route, State.passes, hshare, hup, this]
        rfl
      have h1 := hr.snoc (e := Event.publish d false) trivial .publish
      rw [hroute, hempty] at h1
      have h2 := h1.snoc (e := Event.deliver) trivial (.deliver (hshare ▸ hup) rfl (hu ▸ hst))
      refine ⟨_, _, h2, rfl, hshare, rfl, ?_, ?_⟩
      · simpa [published, taken] using hpub
      · simpa [List.filterMap_cons, Event.onStorage, Ingestion.Event.onStorage] using hstore
    · have h1 := hr.snoc (e := Event.ingest f) trivial (.ingest (by simpa using hf) (hu ▸ hst))
      refine ⟨_, _, h1, rfl, hshare, hempty, ?_, ?_⟩
      · have htaken : taken f = none := by
          cases f with
          | receive d => exact absurd rfl hf
          | _ => rfl
        simpa [List.filterMap_cons, htaken, published] using hpub
      · rw [List.filterMap_append, List.filterMap_append, hstore]
        rfl

omit [Zero F] in
/-- The broker serves all that it has been sent. -/
theorem serves_run (rs : List Sent) {u : Sharing.State} (hup : u.connected = true)
    (hu : u.sent = rs) : (Application.system config).Run Application.Granted u
      (rs.map fun _ => .serve [1])
      { u with sent := [], acks := u.acks ++ rs.map fun r => ⟨r, [1]⟩,
               held := rs.foldl (fun held r => Sharing.hold true held r.request) u.held } := by
  induction rs generalizing u with
  | nil =>
    rcases u with ⟨observers, connected, sent, acks, held, issued, heard⟩
    obtain rfl : sent = [] := hu
    simpa using .nil _
  | cons r rs ih =>
    have hserve : (Application.system config).Run Application.Granted u [.serve [1]] _ :=
      .single ⟨trivial, by rintro _ ⟨⟩; rfl⟩ ⟨rfl, .serve hup hu⟩
    have hqos : MqttGrantedQoS.refused [1] = false := rfl
    simpa [hqos] using hserve.append (ih hup rfl)

theorem network_run {x y : Sharing.State} {fs : List Sharing.Event}
    (h : (Application.system config).Run Application.Granted x fs y) (hx : s.sharing = x)
    (he : s.ingestion.emitting = none) (hdown : s.downstream = []) :
    (system c p routes observers w₀).Run Granting s (fs.map (.network · []))
      { s with sharing := y } := by
  induction h with
  | nil =>
    subst hx
    exact .nil s
  | @snoc y z fs f _ hc hst ih =>
    have hstep := ih.snoc (e := Event.network f []) hc
      (.network hst.1 (fun _ => he) hst.2 (resends_none f))
    rcases hz : z.connected with _ | _ <;> simpa [hdown, hz] using hstep

/-- The application as it starts, when nothing is configured. -/
def idle : State ℤ ℕ where
  sharing := Application.start Application.waiting
  ingestion := Ingestion.start .blank
  retained := []
  downstream := []
  routed := []
  dropped := []

/-- A broker that looks for the very topic among the subscriptions. -/
def exactly (held : List String) (topic : String) : Bool := held.contains topic

def plain : System (State ℤ ℕ) (Event ℕ whole) :=
  system whole Ingestion.knowsOne exactly (StorageSubsystem.createObserver fun _ => none)
    (· = .blank)

theorem init_idle : plain.init idle :=
  ⟨fun _ => .ok 0, .blank, [], rfl, by rw [Application.subscribeObservers_eq]; rfl⟩

theorem wellFormed_blank : DataStorage.WellFormed (World.blank : World ℤ ℕ).session.database := by
  intro d hd t ht
  cases ht

/-- The client connects, and the broker serves all eight requests. -/
theorem connected_run : ∃ es u, plain.Run Granting idle es u ∧ u.sharing.connected = true
    ∧ u.sharing.sent = [] ∧ u.ingestion = Ingestion.start .blank ∧ u.downstream = []
    ∧ (∀ topic ∈ ["temperature", "humidity"], topic ∈ u.sharing.held)
    ∧ es.filterMap Event.onStorage = [] := by
  have h0 : (Application.system fun _ => none).Run Application.Granted idle.sharing [] _ := .nil _
  have h1 := h0.snoc (e := Sharing.Event.connect (fun _ => 0) fun n => n + 1)
    ⟨fun _ _ _ _ => rfl, by simp⟩ ⟨rfl, .connect rfl rfl ⟨by decide, by decide, by decide⟩⟩
  have hserve := h1.append (serves_run _ rfl rfl)
  refine ⟨_, _, network_run hserve rfl rfl rfl, rfl, rfl, rfl, rfl, by decide, ?_⟩
  rw [List.filterMap_map, List.filterMap_eq_nil_iff]
  exact fun _ _ => rfl

/-- On that connection, a reading and something that is not JSON are published and ingested. -/
theorem published_run : ∃ es u es' t, plain.Run Granting idle es u ∧ u.sharing.connected = true
    ∧ u.sharing.sent = [] ∧ u.ingestion.received = [] ∧ u.downstream = [] ∧ plain.Run Kept u es' t
    ∧ (∀ o ∈ choices ((es ++ es').filterMap Event.onStorage), ∀ n, o.put n = none)
    ∧ t.rested ∧ t.downstream = [] ∧ t.sharing = u.sharing ∧ "temperature" ∈ u.sharing.held
    ∧ t.ingestion.received = published es' ∧ published es'
      = [Ingestion.deliver "temperature" Ingestion.oneReading,
        Ingestion.deliver "humidity" [63]] := by
  obtain ⟨es, u, hr, hup, hsent, hu, hdown, hheld, hquiet⟩ := connected_run
  obtain ⟨fs, x, hx, ⟨-, w, done, hst⟩, he, hrec, hcalm⟩ := Ingestion.exists_ingestion whole
    (· = (.blank : World ℤ ℕ)) Ingestion.knowsOne
    (CompositeDataObserver.setUp (StorageSubsystem.createObserver fun _ => none)) .blank
    [Ingestion.deliver "temperature" Ingestion.oneReading, Ingestion.deliver "humidity" [63]]
  have htaken : fs.filterMap taken = _ := (run_received hx).symm.trans hrec
  have hroutes : ∀ d ∈ fs.filterMap taken, exactly u.sharing.held d.message.topic = true := by
    rw [htaken]
    simpa [Ingestion.deliver, exactly] using hheld
  obtain ⟨es', t, hr', ht, hshare, hdown', hpub, hstore⟩ :=
    exists_published hx hu hup hdown hroutes
  refine ⟨es, u, es', t, hr, hup, hsent, by rw [hu]; rfl, hdown, hr', fun o ho n => ?_,
    ⟨by rw [ht, he], by rw [ht, hst]; rfl, by rw [ht, hst]; rfl⟩, hdown', hshare,
    hheld _ (by simp), ?_, hpub.trans htaken⟩
  · rw [List.filterMap_append, hquiet, List.nil_append, hstore] at ho
    rw [hcalm o ho, Faults.calm_put]
  · rw [ht, hrec, hpub, htaken]

theorem collects_all_one : ∃ t : State ℤ ℕ,
    Sensor.temperature.rows t.ingestion.storage.world.session.database
        = [[("Value", .real 1), ("Raw", .real 2), ("Timestamp", .integer 5)]]
      ∧ Sensor.humidity.rows t.ingestion.storage.world.session.database = [] := by
  obtain ⟨es, u, es', t, hr, hup, hsent, hrec, hdown, hr', hfaults, hrest, hdown', -, -, -, hpub⟩ :=
    published_run
  have h := collects_all (w := .blank) rfl wellFormed_blank (.refl _)
    (by simp [Ingestion.knowsOne, Ingestion.oneReading]) (by simp [exactly]) init_idle hr hup
    hsent hr' hfaults hrest hdown'
  rw [hrec, hdown, hpub] at h
  obtain ⟨rows, hrows, htemperature⟩ := h .temperature
  obtain ⟨rows', hrows', hhumidity⟩ := h .humidity
  refine ⟨t, ?_, ?_⟩
  · rw [Sensor.rows, hrows]
    exact htemperature.unique (Ingestion.adds_one 5 _)
  · rw [Sensor.rows, hrows']
    exact hhumidity.unique (Ingestion.adds_none _)

/-- A third message is sent and lost with the connection. -/
theorem collects_published_dropped : ∃ t : State ℤ ℕ,
    Ingestion.deliver "temperature" Ingestion.oneReading ∈ t.dropped
      ∧ (t.ingestion.received ++ t.downstream).Sublist t.routed
      ∧ Sensor.temperature.rows t.ingestion.storage.world.session.database
        = [[("Value", .real 1), ("Raw", .real 2), ("Timestamp", .integer 5)]] := by
  obtain ⟨es, u, es', t, hr, hup, -, -, -, hr', hfaults, hrest, hdown, hshare, hheld, hrec, hpub⟩ :=
    published_run
  have hroute : t.route exactly (Ingestion.deliver "temperature" Ingestion.oneReading) true
      = { t with retained := keep t.retained (Ingestion.deliver "temperature" Ingestion.oneReading),
                 downstream := [Ingestion.deliver "temperature" Ingestion.oneReading],
                 routed :=
                   t.routed ++ [Ingestion.deliver "temperature" Ingestion.oneReading] } := by
    simp [State.route, State.passes, hshare, hup, exactly, hheld, Ingestion.deliver, hdown]
  have h1 := ((hr.mono fun _ _ _ => trivial).append (hr'.mono fun _ _ _ => trivial)).snoc
    (e := Event.publish (Ingestion.deliver "temperature" Ingestion.oneReading) true) trivial
    .publish
  rw [hroute] at h1
  have h2 := h1.snoc (e := Event.network .disconnect []) trivial
    (.network rfl (fun _ => hrest.1) (.disconnect (hshare ▸ hup) rfl) (resends_none _))
  have h := collects_published (w := .blank) rfl wellFormed_blank (.refl _)
    (by simp [Ingestion.knowsOne, Ingestion.oneReading]) init_idle h2
  obtain ⟨-, -, -, hsub, hadds⟩ := h
  obtain ⟨rows, hrows, htemperature⟩ := hadds
    (by simpa [List.filterMap_append, List.filterMap_cons, Event.onStorage] using hfaults) hrest
    .temperature
  dsimp only at hrows htemperature
  rw [hrec, hpub] at htemperature
  refine ⟨_, List.mem_append_right _ (List.mem_singleton_self _), hsub, ?_⟩
  rw [Sensor.rows, hrows]
  exact htemperature.unique (Ingestion.adds_one 5 _)

end Collector

end SensorityCollector
