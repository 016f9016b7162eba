import SensorityCollector.Application
import SensorityCollector.Proofs.ConnectSignal
import SensorityCollector.Proofs.Refused

/-!
# What the application asks the broker for

Without a connection every observer has its wish on record, as `onDisconnect` puts it back for each
one that has been acknowledged. So each connect asks for all topics again, and the subscriptions
that one observer alone can lose are not lost here.
-/

namespace SensorityCollector

open Transition

theorem CompositeDataObserver.subscribe_down (call : ℕ → Except RuntimeException ℕ) :
    ∀ (n : ℕ) (observers : List SensorDataObserver),
      subscribe false call n observers
        = ⟨observers.map fun o => { o with _subscribe := true }, [], none⟩
  | _, [] => rfl
  | n, o :: rest => by
    simp [subscribe, SensorDataObserver.subscribe_down, subscribe_down call (n + 1) rest]

namespace Application

open Sharing

variable {config : String → Option String} {observers : List SensorDataObserver} {s t : State}
  {e : Event} {C : State → Event → Prop} {n : ℕ} {o : SensorDataObserver}

/-- The observer as it waits for the first connection. -/
def pending (o : SensorDataObserver) : SensorDataObserver := { o.setUp with _subscribe := true }

theorem subscribeObservers_eq (call : ℕ → Except RuntimeException ℕ) :
    StorageSubsystem.subscribeObservers call observers = ⟨observers.map pending, [], none⟩ := by
  simp [StorageSubsystem.subscribeObservers, CompositeDataObserver.subscribe_down,
    CompositeDataObserver.setUp, pending, Function.comp_def]

theorem init_iff : (system config).init s ↔ ∃ observers : List SensorDataObserver,
    observers.Perm (StorageSubsystem.createObserver config)
      ∧ s = start (observers.map pending) := by
  simp [system, subscribeObservers_eq]

/-! ## The application's runs among those of the observers -/

theorem subscribed_step (done rest : List SensorDataObserver) (o : SensorDataObserver) :
    Step durable (start (done ++ o.setUp :: rest)) (.subscribe done.length 0 0)
      (start (done ++ pending o :: rest)) := by
  have ho : (start (done ++ o.setUp :: rest)).observers[done.length]? = some o.setUp := by
    simp [start]
  have h : Step durable (start (done ++ o.setUp :: rest)) (.subscribe done.length 0 0) _ :=
    .subscribe ho (SensorDataObserver.subscribe_down _ _)
      ⟨by simp, by simp, by simp [start, Sharing.start, State.unacknowledged]⟩
  simpa [start, State.send, pending, Sharing.start] using h

theorem subscribed_reachable {topics : List (String × Sensor)} :
    ∀ rest done : List SensorDataObserver,
      (Sharing.system durable topics).Reachable
        (start (done ++ rest.map SensorDataObserver.setUp)) →
      (Sharing.system durable topics).Reachable (start (done ++ rest.map pending))
  | [], _, h => h
  | o :: rest, done, h => by
    have := subscribed_reachable rest (done ++ [pending o])
      (by simpa using h.next (subscribed_step done (rest.map SensorDataObserver.setUp) o))
    simpa using this

theorem createObserver_eq (ho : o ∈ StorageSubsystem.createObserver config) :
    o = .create o._topic o._accessor := by
  simp only [StorageSubsystem.createObserver, List.mem_cons, List.not_mem_nil, or_false] at ho
  rcases ho with rfl | rfl | rfl | rfl | rfl | rfl | rfl | rfl <;> rfl

/-- The initialisation subscribes the observers one by one. -/
theorem reachable_sharing (h : (system config).ReachableBy C s) :
    ∃ topics, (Sharing.system durable topics).Reachable s := by
  induction h with
  | init hi =>
    obtain ⟨observers, hperm, rfl⟩ := init_iff.1 hi
    refine ⟨observers.map fun o => (o._topic, o._accessor), ?_⟩
    refine subscribed_reachable observers [] (.init ?_)
    have : ∀ o ∈ observers, SensorDataObserver.setUp o
        = (SensorDataObserver.create o._topic o._accessor).setUp := fun o ho => by
      rw [← createObserver_eq (hperm.subset ho)]
    simpa [Sharing.system, start, Sharing.start] using this
  | step _ _ hs ih =>
    obtain ⟨topics, hr⟩ := ih
    exact ⟨topics, hr.next hs.2⟩

theorem exists_consistent (h : (system config).ReachableBy C s) :
    ∃ topics, Consistent topics s := by
  obtain ⟨topics, hr⟩ := reachable_sharing h
  exact ⟨topics, consistent hr⟩

/-- What a step of the network thread does. -/
inductive Served (s : State) : Event → State → Prop
  | connect (rc : ℕ → ℤ) (mid : ℕ → ℕ) (t : State) : s.connected = false → t.connected = true →
      t.observers.length = s.observers.length →
      Sending s t (MqttClient.emitConnectSignal true
        (fun n => MqttClient.subscribe (rc n) (mid n)) 0 s.observers).requests →
      Served s (.connect rc mid) t
  | disconnect : s.connected = true → Served s .disconnect
      { s with connected := false,
               observers := s.observers.map fun o => o.onDisconnect durable, sent := [],
               acks := [], held := [] }
  | serve (r : Sent) (rest : List Sent) (qos : MqttGrantedQoS) : s.connected = true →
      s.sent = r :: rest → Served s (.serve qos)
        { s with sent := rest, acks := s.acks ++ [⟨r, qos⟩],
                 held := hold (!qos.refused) s.held r.request }
  | acknowledge (a : Ack) : s.connected = true → a ∈ s.acks → Served s (.acknowledge a)
      { s with acks := s.acks.erase a,
               observers := s.observers.map fun o => o.acknowledge a.sent.request,
               heard := s.heard ++ [a] }

theorem step_served (h : (system config).step s e t) : Served s e t := by
  obtain ⟨he, hs⟩ := h
  cases hs with
  | connect hc hx ha =>
    have hsend := sending_connect hx ha
    cases hx
    exact .connect _ _ _ hc rfl (emit_length _ _) hsend
  | disconnect hc hx =>
    cases hx
    exact .disconnect hc
  | serve hc hsent => exact .serve _ _ _ hc hsent
  | acknowledge hc ha =>
    simp only [SensorDataObserver.receive_eq]
    exact .acknowledge _ hc ha
  | subscribe _ _ _ => cases he
  | unsubscribe _ _ _ => cases he
  | subscribeThrows _ _ => cases he
  | unsubscribeThrows _ _ => cases he

/-! ## What is asked for at a connect -/

/-- When everyone is pending, the slots ask one after the other until one is rejected. -/
theorem emit_requests (rc : ℕ → ℤ) (mid : ℕ → ℕ) :
    ∀ (os : List SensorDataObserver) (n : ℕ), (∀ o ∈ os, o._subscribe = true) →
      (MqttClient.emitConnectSignal true (fun n => MqttClient.subscribe (rc n) (mid n)) n
          os).requests
        = (os.mapIdx fun i o => (⟨n + i, .subscribe (mid (n + i)) o._topic⟩ : Sent)).takeWhile
            fun r => rc r.owner = MOSQ_ERR_SUCCESS
  | [], _, _ => rfl
  | o :: os, n, h => by
    have ih := emit_requests rc mid os (n + 1) fun p hp => h p (List.mem_cons_of_mem _ hp)
    simp only [MqttClient.emitConnectSignal, List.mapIdx_cons, List.takeWhile_cons, Nat.add_zero,
      onConnect_answered mid (h o List.mem_cons_self)]
    by_cases hrc : rc n = MOSQ_ERR_SUCCESS
    · have hshift : ∀ i, n + 1 + i = n + (i + 1) := by omega
      simp only [hshift] at ih
      simp [hrc, ih]
    · simp [hrc]

/-- Everybody's wish is on record when the connection is down, and nothing but subscriptions is ever
asked for. -/
structure Wishing (s : State) : Prop where
  wish : ∀ o ∈ s.observers, o._subscribe = true ∨ o._subscribed = true ∧ s.connected = true
  subscribes : ∀ r ∈ s.unacknowledged, r.request.isSubscribe = true
  idle : s.connected = false → s.unacknowledged = []

theorem Wishing.pending (h : Wishing s) (hc : s.connected = false) (ho : o ∈ s.observers) :
    o._subscribe = true :=
  (h.wish o ho).resolve_right fun hs => by simp [hc] at hs

theorem Wishing.emit (h : Wishing s) (hc : s.connected = false) (rc : ℕ → ℤ) (mid : ℕ → ℕ) :
    (MqttClient.emitConnectSignal true
      (fun n => MqttClient.subscribe (rc n) (mid n)) 0 s.observers).requests
        = asked (s.observers.map fun o => o._topic) (.connect rc mid) := by
  rw [emit_requests rc mid s.observers 0 fun o ho => h.pending hc ho]
  have hmap : requests mid (s.observers.map fun o => o._topic)
      = s.observers.mapIdx fun i o => ⟨i, .subscribe (mid i) o._topic⟩ := by
    simp [requests, List.mapIdx_eq_iff, Function.comp_def]
  simp [asked, hmap]

theorem isSubscribe_asked {topics : List String} {r : Sent} (hr : r ∈ asked topics e) :
    r.request.isSubscribe = true := by
  cases e with
  | connect rc mid =>
    have hr := List.takeWhile_subset _ hr
    obtain ⟨i, hi, rfl⟩ := List.mem_mapIdx.1 hr
    rfl
  | _ => simp [asked] at hr

theorem unacknowledged_serve {r : Sent} {rest : List Sent} {qos : MqttGrantedQoS}
    (hsent : s.sent = r :: rest) (hs : t.sent = rest) (ha : t.acks = s.acks ++ [⟨r, qos⟩]) :
    t.unacknowledged.Perm s.unacknowledged := by
  simp only [State.unacknowledged, hsent, hs, ha, List.map_append, List.map_cons, List.map_nil]
  rw [← List.append_assoc]
  exact List.perm_append_singleton r _

theorem unacknowledged_acknowledge {a : Ack} (ha : a ∈ s.acks) (hs : t.sent = s.sent)
    (ht : t.acks = s.acks.erase a) : (a.sent :: t.unacknowledged).Perm s.unacknowledged := by
  simp only [State.unacknowledged, hs, ht]
  refine List.perm_middle.symm.trans ((List.perm_append_left_iff _).2 ?_)
  exact ((List.perm_cons_erase ha).map Ack.sent).symm

theorem Wishing.step (h : Wishing s) (hs : (system config).step s e t) : Wishing t := by
  cases step_served hs with
  | connect rc mid t hc ht hlen hsend =>
    refine ⟨fun o' ho' => ?_, fun r hr => ?_, fun hf => by simp [ht] at hf⟩
    · obtain ⟨n, hn, rfl⟩ := List.mem_iff_getElem.1 ho'
      obtain ⟨o, ho, hsends⟩ := hsend.observers n _ (List.getElem?_eq_getElem hn)
      exact .inl (hsends.subscribe (h.pending hc (List.mem_of_getElem? ho)))
    · rw [h.emit hc] at hsend
      rcases List.mem_append.1 (hsend.unacknowledged.subset hr) with hr | hr
      · exact h.subscribes r hr
      · exact isSubscribe_asked hr
  | disconnect hc =>
    refine ⟨fun o' ho' => ?_, by simp [State.unacknowledged], fun _ => rfl⟩
    obtain ⟨o, ho, rfl⟩ := List.mem_map.1 ho'
    left
    rcases h.wish o ho with hs | ⟨hs, -⟩
    · exact (onDisconnect_keeps o).1 hs
    · simp [SensorDataObserver.onDisconnect, hs, durable]
  | serve r rest qos hc hsent =>
    refine ⟨h.wish, fun q hq => h.subscribes q ?_, fun hf => by simp [hc] at hf⟩
    exact (unacknowledged_serve (s := s) hsent rfl rfl).subset hq
  | acknowledge a hc ha =>
    have hperm := unacknowledged_acknowledge (s := s) (t := { s with acks := s.acks.erase a })
      ha rfl rfl
    refine ⟨fun o' ho' => ?_, fun q hq => h.subscribes q ?_, fun hf => by simp [hc] at hf⟩
    · obtain ⟨o, ho, rfl⟩ := List.mem_map.1 ho'
      by_cases hmid : a.sent.request.mid = o._mid
      · rw [SensorDataObserver.acknowledge_of_eq hmid]
        exact .inr ⟨h.subscribes _ (hperm.subset List.mem_cons_self), hc⟩
      · rw [SensorDataObserver.acknowledge_of_ne hmid]
        exact h.wish o ho
    · exact hperm.subset (List.mem_cons_of_mem _ hq)

theorem wishing_start (observers : List SensorDataObserver) :
    Wishing (start (observers.map pending)) := by
  refine ⟨fun o ho => ?_, by simp [start, Sharing.start, State.unacknowledged], fun _ => rfl⟩
  obtain ⟨p, -, rfl⟩ := List.mem_map.1 ho
  exact .inl rfl

theorem wishing (h : (system config).ReachableBy C s) : Wishing s := by
  refine h.invariant (fun s hs => ?_) fun s e t _ hp _ hs => hp.step hs
  obtain ⟨observers, -, rfl⟩ := init_iff.1 hs
  exact wishing_start observers

theorem step_topics (hs : (system config).step s e t) :
    t.observers.map (fun o => o._topic) = s.observers.map fun o => o._topic := by
  cases step_served hs with
  | connect rc mid t hc ht hlen hsend =>
    refine List.ext_getElem (by simp [hlen]) fun n hn hn' => ?_
    obtain ⟨o, ho, hsends⟩ := hsend.observers n _
      (List.getElem?_eq_getElem (by simpa using hn))
    have ho := (List.getElem?_eq_some_iff.1 ho).2
    simp [hsends.topic, ho]
  | disconnect hc => simp [Function.comp_def, onDisconnect_topic]
  | serve r rest qos hc hsent => rfl
  | acknowledge a hc ha => simp [Function.comp_def, acknowledge_topic]

theorem step_issued (h : Wishing s) (hs : (system config).step s e t) :
    t.issued = s.issued ++ asked (s.observers.map fun o => o._topic) e := by
  cases step_served hs with
  | connect rc mid t hc ht hlen hsend => rw [hsend.issued, h.emit hc]
  | _ => simp [asked]

theorem run_issued (hinit : (system config).init s) {es : List Event}
    (h : (system config).Run C s es t) :
    t.observers.map (fun o => o._topic) = s.observers.map (fun o => o._topic)
      ∧ t.issued = es.flatMap (asked (s.observers.map fun o => o._topic)) := by
  induction h with
  | nil =>
    obtain ⟨observers, -, rfl⟩ := init_iff.1 hinit
    exact ⟨rfl, rfl⟩
  | @snoc t u es e hr hc hs ih =>
    obtain ⟨htopics, hissued⟩ := ih
    refine ⟨(step_topics hs).trans htopics, ?_⟩
    rw [step_issued (wishing (hr.reachableBy (.init hinit))) hs, hissued, htopics]
    simp

theorem topics_init (hinit : (system config).init s) :
    (s.observers.map fun o => o._topic).Perm
      ((StorageSubsystem.createObserver config).map fun o => o._topic) := by
  obtain ⟨observers, hperm, rfl⟩ := init_iff.1 hinit
  simpa [start, pending, SensorDataObserver.setUp, Function.comp_def] using hperm.map _

theorem topics_reachable (h : (system config).ReachableBy C s) :
    (s.observers.map fun o => o._topic).Perm
      ((StorageSubsystem.createObserver config).map fun o => o._topic) := by
  induction h with
  | init hi => exact topics_init hi
  | step _ _ hs ih => rwa [step_topics hs]

/-- Whatever the library and the broker answer and whenever the connection is lost, the application
asks for each of its topics once at every connect, in the order of the set and up to the first
request that is rejected, and for nothing else; and every observer waits for the next connect. -/
theorem resubscribes (config : String → Option String) {s t : State} {es : List Event}
    (hinit : (system config).init s) (h : (system config).Run (fun _ _ => True) s es t) :
    (s.observers.map fun o => o._topic).Perm
        ((StorageSubsystem.createObserver config).map fun o => o._topic)
      ∧ t.issued = es.flatMap (asked (s.observers.map fun o => o._topic))
      ∧ (t.connected = false → ∀ o ∈ t.observers, o._subscribe = true) :=
  ⟨topics_init hinit, (run_issued hinit h).2, fun hc _ ho =>
    (wishing (h.reachableBy (.init hinit))).pending hc ho⟩

/-- The observers as the application starts with them, when nothing is configured. -/
def waiting : List SensorDataObserver :=
  (StorageSubsystem.createObserver fun _ => none).map pending

theorem init_waiting : (system fun _ => none).init (start waiting) :=
  init_iff.2 ⟨_, .refl _, rfl⟩

/-- One connection is lost before anything is acknowledged, and on the next the library rejects the
third request. -/
theorem resubscribes_twice : ∃ t : State,
    t.issued.length = 10 ∧ t.observers.map (fun o => o._subscribe) = List.replicate 8 true := by
  have h0 : (system fun _ => none).Run (fun _ _ => True) (start waiting) [] _ := .nil _
  have h1 := h0.snoc (e := Event.connect (fun _ => 0) fun n => n + 1) trivial
    ⟨rfl, .connect rfl rfl ⟨by decide, by decide, by decide⟩⟩
  have h2 := h1.snoc (e := Event.disconnect) trivial ⟨rfl, .disconnect rfl rfl⟩
  have h3 := h2.snoc (e := Event.connect (fun n => if n = 2 then 4 else 0) fun n => n + 9) trivial
    ⟨rfl, .connect rfl rfl ⟨by decide, by decide, by decide⟩⟩
  have h4 := h3.snoc (e := Event.disconnect) trivial ⟨rfl, .disconnect rfl rfl⟩
  have h := resubscribes _ init_waiting h4
  refine ⟨_, (congrArg List.length h.2.1).trans (by decide), ?_⟩
  rw [List.eq_replicate_iff]
  exact ⟨rfl, by simpa using h.2.2 rfl⟩

end Application

end SensorityCollector
