import SensorityCollector.Sharing

/-!
# What a step makes of each observer

The calls of the user and the connect signal hand requests to the library, one at most for each
observer, which keeps its id and changes in nothing else that an acknowledgement looks at
(`step_moved`). Of the acknowledgement itself, only the kind and the id reach an observer
(`receive_eq`).
-/

namespace SensorityCollector

open Transition

theorem SensorDataObserver.receive_eq (o : SensorDataObserver) (a : Ack) :
    o.receive a = o.acknowledge a.sent.request := by
  unfold receive acknowledge
  rcases a.sent.request with _ | _ <;> rfl

theorem SensorDataObserver.acknowledge_of_ne {o : SensorDataObserver} {r : Request}
    (h : r.mid ≠ o._mid) : o.acknowledge r = o := by
  unfold acknowledge onSubscribe onUnsubscribe
  rcases r with _ | _
  · exact if_neg h
  · exact if_neg h

theorem SensorDataObserver.acknowledge_of_eq {o : SensorDataObserver} {r : Request}
    (h : r.mid = o._mid) : o.acknowledge r =
      { o with _subscribe := false, _subscribed := r.isSubscribe, _mid := InvalidMessageId } := by
  unfold acknowledge onSubscribe onUnsubscribe
  rcases r with _ | _
  · exact if_pos h
  · exact if_pos h

namespace Sharing

open SensorDataObserver

variable {durable : Bool} {s t : State} {n : ℕ}

def own (n : ℕ) (rs : List Sent) : List Sent := rs.filter fun r => r.owner = n

theorem own_append (rs rs' : List Sent) : own n (rs ++ rs') = own n rs ++ own n rs' :=
  List.filter_append ..

theorem mem_own {rs : List Sent} {r : Sent} : r ∈ own n rs ↔ r ∈ rs ∧ r.owner = n := by
  simp [own]

theorem own_eq_nil {rs : List Sent} (h : ∀ r ∈ rs, r.owner ≠ n) : own n rs = [] := by
  rw [own, List.filter_eq_nil_iff]
  intro r hr
  simpa using h r hr

/-- The `n`-th observer goes from `o` to `o'` and has at most one of the requests `rs`, whose id it
keeps. Only one that is subscribed unsubscribes. -/
structure Sends (n : ℕ) (o o' : SensorDataObserver) (rs : List Sent) : Prop where
  topic : o'._topic = o._topic
  subscribed : o'._subscribed = o._subscribed
  subscribe : o._subscribe = true → o'._subscribe = true
  requests : own n rs = [] ∧ o'._mid = o._mid
    ∨ ∃ r : Request, own n rs = [⟨n, r⟩] ∧ o'._mid = r.mid ∧ r.topic = o._topic
      ∧ (r.isSubscribe = false → o._subscribed = true)

theorem Sends.rfl {o : SensorDataObserver} {rs : List Sent} (h : own n rs = []) :
    Sends n o o rs := ⟨Eq.refl _, Eq.refl _, id, .inl ⟨h, Eq.refl _⟩⟩

theorem own_single (r : Option Request) : own n (r.map (Sent.mk n)).toList
    = (r.map (Sent.mk n)).toList := by
  rcases r with _ | r <;> simp [own]

theorem sends_subscribe {o o' : SensorDataObserver} {connected : Bool} {rc : ℤ} {mid : ℕ}
    {r : Option Request}
    (h : o.subscribe connected (MqttClient.subscribe rc mid) = .ok (o', r)) :
    Sends n o o' (r.map (Sent.mk n)).toList := by
  unfold SensorDataObserver.subscribe MqttClient.subscribe at h
  split_ifs at h with hc hr
  · cases h
    exact ⟨rfl, rfl, id, .inr ⟨_, own_single _, rfl, rfl, by simp [Request.isSubscribe]⟩⟩
  · cases h
    exact ⟨rfl, rfl, fun _ => rfl, .inl ⟨rfl, rfl⟩⟩

theorem sends_unsubscribe {o o' : SensorDataObserver} {rc : ℤ} {mid : ℕ} {r : Option Request}
    (h : o.unsubscribe (MqttClient.unsubscribe rc mid) = .ok (o', r)) :
    Sends n o o' (r.map (Sent.mk n)).toList := by
  unfold SensorDataObserver.unsubscribe MqttClient.unsubscribe at h
  split_ifs at h with hs hr
  · cases h
    exact ⟨rfl, rfl, id, .inr ⟨_, own_single _, rfl, rfl, fun _ => hs⟩⟩
  · cases h
    exact .rfl rfl

theorem sends_onConnect {o o' : SensorDataObserver} {connected : Bool} {rc : ℤ} {mid : ℕ}
    {r : Option Request}
    (h : o.onConnect connected (MqttClient.subscribe rc mid) = .ok (o', r)) :
    Sends n o o' (r.map (Sent.mk n)).toList := by
  unfold SensorDataObserver.onConnect at h
  split_ifs at h with hs
  · exact sends_subscribe h
  · cases h
    exact .rfl rfl

theorem emit_owner (connected : Bool) (call : ℕ → Except RuntimeException ℕ) :
    ∀ (os : List SensorDataObserver) (n : ℕ),
      ∀ r ∈ (MqttClient.emitConnectSignal connected call n os).requests,
        n ≤ r.owner ∧ r.owner < n + os.length
  | [], n, r, hr => by simp [MqttClient.emitConnectSignal] at hr
  | o :: os, n, r, hr => by
    unfold MqttClient.emitConnectSignal at hr
    rcases ho : o.onConnect connected (call n) with e | ⟨o', r'⟩ <;> rw [ho] at hr
    · cases hr
    · rcases List.mem_append.1 hr with hr | hr
      · obtain ⟨q, -, rfl⟩ : ∃ q, r' = some q ∧ ⟨n, q⟩ = r := by simpa using hr
        simp
      · have := emit_owner connected call os (n + 1) r hr
        rw [List.length_cons]
        omega

/-- The connect signal calls each observer's slot or leaves the observer as it was. -/
theorem emit_sends (rc : ℕ → ℤ) (mid : ℕ → ℕ) (connected : Bool) :
    ∀ (os : List SensorDataObserver) (n i : ℕ) (o : SensorDataObserver), os[i]? = some o →
      ∃ o', (MqttClient.emitConnectSignal connected
          (fun n => MqttClient.subscribe (rc n) (mid n)) n os).observers[i]? = some o'
        ∧ Sends (n + i) o o' (MqttClient.emitConnectSignal connected
          (fun n => MqttClient.subscribe (rc n) (mid n)) n os).requests
  | [], n, i, o, h => by simp at h
  | o₀ :: os, n, i, o, h => by
    unfold MqttClient.emitConnectSignal
    rcases ho : o₀.onConnect connected (MqttClient.subscribe (rc n) (mid n)) with e | ⟨o', r⟩
    · exact ⟨o, h, .rfl rfl⟩
    · have hlater := emit_owner connected
        (fun n => MqttClient.subscribe (rc n) (mid n)) os (n + 1)
      rcases i with _ | i
      · obtain rfl : o₀ = o := by simpa using h
        have hfirst := sends_onConnect (n := n) ho
        have hnone := own_eq_nil (n := n) fun r hr => by have := hlater r hr; omega
        refine ⟨o', rfl, hfirst.topic, hfirst.subscribed, hfirst.subscribe, ?_⟩
        rw [Nat.add_zero, own_append, hnone, List.append_nil]
        exact hfirst.requests
      · obtain ⟨o'', ho'', hsends⟩ := emit_sends rc mid connected os (n + 1) i o (by simpa using h)
        have hnone : own (n + 1 + i) (r.map (Sent.mk n)).toList = [] := by
          refine own_eq_nil fun q hq => ?_
          obtain ⟨q, -, rfl⟩ : ∃ q', r = some q' ∧ ⟨n, q'⟩ = q := by simpa using hq
          simp only
          omega
        refine ⟨o'', by simpa using ho'', hsends.topic, hsends.subscribed, hsends.subscribe, ?_⟩
        rw [show n + (i + 1) = n + 1 + i by omega, own_append, hnone, List.nil_append]
        exact hsends.requests

theorem emit_length {call : ℕ → Except RuntimeException ℕ} {connected : Bool} :
    ∀ (os : List SensorDataObserver) (n : ℕ),
      (MqttClient.emitConnectSignal connected call n os).observers.length = os.length
  | [], n => rfl
  | o :: os, n => by
    unfold MqttClient.emitConnectSignal
    rcases o.onConnect connected (call n) with e | ⟨o', r⟩
    · rfl
    · simp [emit_length os (n + 1)]

/-- Each observer sends what it has of `rs`, and nothing else happens. -/
structure Sending (s t : State) (rs : List Sent) : Prop where
  sent : t.sent = s.sent ++ rs
  issued : t.issued = s.issued ++ rs
  acks : t.acks = s.acks
  held : t.held = s.held
  heard : t.heard = s.heard
  observers : ∀ n o', t.observers[n]? = some o' →
    ∃ o, s.observers[n]? = some o ∧ Sends n o o' rs
  owners : ∀ r ∈ rs, r.owner < t.observers.length
  fresh : ∀ r ∈ rs, r.request.mid ≠ InvalidMessageId
  nodup : ((s.unacknowledged ++ rs).map fun r => r.request.mid).Nodup

/-- What a step does: the user or the connect signal sends, or one of the others takes place. -/
inductive Moved (durable : Bool) (s : State) : Event → State → Prop
  | send {e : Event} {t : State} (rs : List Sent) : e ≠ .disconnect → (∀ qos, e ≠ .serve qos) →
      (∀ a, e ≠ .acknowledge a) → Sending s t rs → Moved durable s e t
  | quiet {e : Event} : e ≠ .disconnect → (∀ qos, e ≠ .serve qos) →
      (∀ a, e ≠ .acknowledge a) → Moved durable s e s
  | disconnect : Moved durable s .disconnect
      { s with connected := false,
               observers := s.observers.map fun o => o.onDisconnect durable, sent := [],
               acks := [], held := if durable then s.held else [] }
  | serve (r : Sent) (rest : List Sent) (qos : MqttGrantedQoS) : s.sent = r :: rest →
      Moved durable s (.serve qos)
        { s with sent := rest, acks := s.acks ++ [⟨r, qos⟩],
                 held := hold (!qos.refused) s.held r.request }
  | acknowledge (a : Ack) : a ∈ s.acks →
      Moved durable s (.acknowledge a)
        { s with acks := s.acks.erase a,
                 observers := s.observers.map fun o => o.acknowledge a.sent.request,
                 heard := s.heard ++ [a] }

theorem sending_set {o o' : SensorDataObserver} {r : Option Request}
    (ho : s.observers[n]? = some o) (hs : Sends n o o' (r.map (Sent.mk n)).toList)
    (ha : s.Accepts (r.map (Sent.mk n)).toList) :
    Sending s ({ s with observers := s.observers.set n o' }.send (r.map (Sent.mk n)).toList)
      (r.map (Sent.mk n)).toList := by
  have hn : n < s.observers.length := (List.getElem?_eq_some_iff.1 ho).1
  refine ⟨rfl, rfl, rfl, rfl, rfl, fun m x hx => ?_, fun q hq => ?_, ha.2.1, ha.2.2⟩
  rotate_left
  · obtain ⟨q', -, rfl⟩ : ∃ q', r = some q' ∧ ⟨n, q'⟩ = q := by simpa using hq
    simpa [State.send] using hn
  change (s.observers.set n o')[m]? = some x at hx
  rw [List.getElem?_set] at hx
  split_ifs at hx with hm
  · obtain rfl := hm
    obtain rfl := Option.some.inj hx
    exact ⟨o, ho, hs⟩
  · refine ⟨x, hx, .rfl ?_⟩
    rcases r with _ | r
    · rfl
    · exact own_eq_nil (by simpa using hm)

theorem sending_connect {rc : ℕ → ℤ} {mid : ℕ → ℕ} {connected : Bool} {x : Emitted}
    (hx : MqttClient.onConnect 0 (fun n => MqttClient.subscribe (rc n) (mid n)) s.observers
      = (connected, x)) (ha : { s with connected := connected }.Accepts x.requests) :
    Sending s ({ s with connected := connected, observers := x.observers }.send x.requests)
      x.requests := by
  have hx' : MqttClient.emitConnectSignal true
      (fun n => MqttClient.subscribe (rc n) (mid n)) 0 s.observers = x := congrArg Prod.snd hx
  have hlength : x.observers.length = s.observers.length := by rw [← hx', emit_length]
  refine ⟨rfl, rfl, rfl, rfl, rfl, fun n o' ho' => ?_, fun r hr => ?_, ha.2.1, ha.2.2⟩
  · have ho' : x.observers[n]? = some o' := ho'
    have hlt : n < s.observers.length := hlength ▸ (List.getElem?_eq_some_iff.1 ho').1
    obtain ⟨o'', ho'', hs⟩ := emit_sends rc mid true s.observers 0 n
      _ (List.getElem?_eq_getElem hlt)
    rw [hx', ho'] at ho''
    cases ho''
    rw [hx', Nat.zero_add] at hs
    exact ⟨_, List.getElem?_eq_getElem hlt, hs⟩
  · rw [← hx'] at hr
    have hlt := (emit_owner _ _ _ 0 r hr).2
    change r.owner < x.observers.length
    omega

theorem step_moved {e : Event} (h : Step durable s e t) : Moved durable s e t := by
  cases h with
  | subscribe ho hcall ha =>
    exact .send _ (by simp) (by simp) (by simp) (sending_set ho (sends_subscribe hcall) ha)
  | unsubscribe ho hcall ha =>
    exact .send _ (by simp) (by simp) (by simp) (sending_set ho (sends_unsubscribe hcall) ha)
  | subscribeThrows _ _ => exact .quiet (by simp) (by simp) (by simp)
  | unsubscribeThrows _ _ => exact .quiet (by simp) (by simp) (by simp)
  | connect _ hx ha => exact .send _ (by simp) (by simp) (by simp) (sending_connect hx ha)
  | disconnect hc hx =>
    cases hx
    exact .disconnect
  | serve hc hs => exact .serve _ _ _ hs
  | @acknowledge a hc ha =>
    simp only [SensorDataObserver.receive_eq]
    exact .acknowledge _ ha

theorem step_acknowledge {a : Ack} (h : Step durable s (.acknowledge a) t) :
    t.observers = s.observers.map (fun o => o.acknowledge a.sent.request)
      ∧ t.heard = s.heard ++ [a] := by
  cases step_moved h with
  | send _ _ _ hne _ => exact absurd rfl (hne a)
  | quiet _ _ hne => exact absurd rfl (hne a)
  | acknowledge _ _ => exact ⟨rfl, rfl⟩

/-! ## What the requests not acknowledged have in common -/

variable {topics : List (String × Sensor)} {o : SensorDataObserver}

/-- Each observer has its topic, and each request its observer's; no two that are not acknowledged
share an id, and none has the invalid one. -/
structure Consistent (topics : List (String × Sensor)) (s : State) : Prop where
  topic : ∀ (n : ℕ) (o : SensorDataObserver), s.observers[n]? = some o →
    (topics.map Prod.fst)[n]? = some o._topic
  requests : ∀ r ∈ s.unacknowledged, (topics.map Prod.fst)[r.owner]? = some r.request.topic
  nodup : (s.unacknowledged.map fun r => r.request.mid).Nodup
  fresh : ∀ r ∈ s.unacknowledged, r.request.mid ≠ InvalidMessageId

theorem mem_unacknowledged {r : Sent} :
    r ∈ s.unacknowledged ↔ r ∈ s.sent ∨ ∃ a ∈ s.acks, a.sent = r := by
  simp [State.unacknowledged]

theorem Sending.unacknowledged {rs : List Sent} (h : Sending s t rs) :
    t.unacknowledged.Perm (s.unacknowledged ++ rs) := by
  unfold State.unacknowledged
  rw [h.sent, h.acks, List.append_assoc, List.append_assoc]
  exact (List.perm_append_left_iff _).2 List.perm_append_comm

/-- Of two requests with one id that are not acknowledged, one is the other. -/
theorem Consistent.eq_of_mid (h : Consistent topics s) {r r' : Sent} (hr : r ∈ s.unacknowledged)
    (hr' : r' ∈ s.unacknowledged) (heq : r.request.mid = r'.request.mid) : r = r' :=
  List.inj_on_of_nodup_map h.nodup hr hr' heq

/-- What is under way to the broker is not on its way back. -/
theorem Consistent.disjoint (h : Consistent topics s) {r : Sent} {a : Ack} (hr : r ∈ s.sent)
    (ha : a ∈ s.acks) : r.request.mid ≠ a.sent.request.mid := by
  have hnodup := h.nodup
  unfold State.unacknowledged at hnodup
  rw [List.map_append] at hnodup
  exact (List.nodup_append.1 hnodup).2.2 _ (List.mem_map_of_mem hr) _
    (List.mem_map_of_mem (List.mem_map_of_mem ha))

theorem acknowledge_topic (o : SensorDataObserver) (r : Request) :
    (o.acknowledge r)._topic = o._topic := by
  by_cases h : r.mid = o._mid
  · rw [acknowledge_of_eq h]
  · rw [acknowledge_of_ne h]

theorem onDisconnect_topic (o : SensorDataObserver) :
    (o.onDisconnect durable)._topic = o._topic := by
  unfold SensorDataObserver.onDisconnect
  split <;> rfl

theorem Consistent.of_subperm (h : Consistent topics s)
    (htopic : ∀ (n : ℕ) (o' : SensorDataObserver), t.observers[n]? = some o' →
      ∃ o, s.observers[n]? = some o ∧ o'._topic = o._topic)
    (hsub : t.unacknowledged.Subperm s.unacknowledged) : Consistent topics t := by
  refine ⟨fun n o' ho' => ?_, fun r hr => h.requests r (hsub.subset hr), ?_,
    fun r hr => h.fresh r (hsub.subset hr)⟩
  · obtain ⟨o, ho, heq⟩ := htopic n o' ho'
    rw [heq]
    exact h.topic n o ho
  · obtain ⟨l, hperm, hsub⟩ := hsub
    exact (hperm.map _).nodup_iff.1 (h.nodup.sublist (hsub.map _))

theorem map_topic {f : SensorDataObserver → SensorDataObserver} (hf : ∀ o, (f o)._topic = o._topic)
    (n : ℕ) (o' : SensorDataObserver) (ho' : (s.observers.map f)[n]? = some o') :
    ∃ o, s.observers[n]? = some o ∧ o'._topic = o._topic := by
  rw [List.getElem?_map] at ho'
  obtain ⟨o, ho, rfl⟩ := Option.map_eq_some_iff.1 ho'
  exact ⟨o, ho, hf o⟩

theorem Sending.owner {rs : List Sent} (h : Sending s t rs) {r : Sent} (hr : r ∈ rs) :
    ∃ o, s.observers[r.owner]? = some o ∧ r.request.topic = o._topic := by
  obtain ⟨o, ho, hsends⟩ := h.observers r.owner _ (List.getElem?_eq_getElem (h.owners r hr))
  have hmem : r ∈ own r.owner rs := mem_own.2 ⟨hr, rfl⟩
  rcases hsends.requests with ⟨hnone, -⟩ | ⟨q, hown, -, hq, -⟩
  · rw [hnone] at hmem
    cases hmem
  · have hrq : r.request = q := by
      rw [hown] at hmem
      exact congrArg Sent.request (List.mem_singleton.1 hmem)
    exact ⟨o, ho, hrq ▸ hq⟩

theorem Consistent.send {rs : List Sent} (h : Consistent topics s) (hsend : Sending s t rs) :
    Consistent topics t := by
  have hperm := hsend.unacknowledged
  refine ⟨fun n o' ho' => ?_, fun r hr => ?_, ((hperm.map _).nodup_iff).2 hsend.nodup,
    fun r hr => ?_⟩
  · obtain ⟨o, ho, hsends⟩ := hsend.observers n o' ho'
    rw [hsends.topic]
    exact h.topic n o ho
  · rcases List.mem_append.1 (hperm.subset hr) with hr | hr
    · exact h.requests r hr
    · obtain ⟨o, ho, htopic⟩ := hsend.owner hr
      rw [htopic]
      exact h.topic r.owner o ho
  · rcases List.mem_append.1 (hperm.subset hr) with hr | hr
    · exact h.fresh r hr
    · exact hsend.fresh r hr

theorem Consistent.step {e : Event} (h : Consistent topics s) (hs : Step durable s e t) :
    Consistent topics t := by
  rcases step_moved hs with ⟨rs, -, -, -, hsend⟩ | _ | _ | ⟨r, rest, qos, hsent⟩ | ⟨a, ha⟩
  · exact h.send hsend
  · exact h
  · exact h.of_subperm (map_topic onDisconnect_topic) (List.Sublist.subperm (List.nil_sublist _))
  · refine h.of_subperm (fun n o' ho' => ⟨o', ho', rfl⟩) (List.Perm.subperm ?_)
    simp only [State.unacknowledged, hsent, List.map_append, List.map_cons, List.map_nil]
    rw [← List.append_assoc]
    exact List.perm_append_singleton r _
  · refine h.of_subperm (map_topic fun o => acknowledge_topic o _) (List.Sublist.subperm ?_)
    exact ((List.erase_sublist).map _).append_left _

theorem observer_start (ho : (start topics).observers[n]? = some o) :
    ∃ p, topics[n]? = some p ∧ o = (SensorDataObserver.create p.1 p.2).setUp := by
  simp only [start, List.getElem?_map] at ho
  obtain ⟨p, hp, rfl⟩ := Option.map_eq_some_iff.1 ho
  exact ⟨p, hp, rfl⟩

theorem consistent_start (topics : List (String × Sensor)) : Consistent topics (start topics) := by
  refine ⟨fun n o ho => ?_, by simp [start, State.unacknowledged],
    by simp [start, State.unacknowledged], by simp [start, State.unacknowledged]⟩
  obtain ⟨p, hp, rfl⟩ := observer_start ho
  simp [hp, SensorDataObserver.setUp, SensorDataObserver.create]

theorem consistent {C : State → Event → Prop} (h : (system durable topics).ReachableBy C s) :
    Consistent topics s := by
  refine h.invariant (fun s hs => ?_) fun _ _ _ _ hc _ hs => hc.step hs
  obtain rfl : s = start topics := hs
  exact consistent_start topics

end Sharing

end SensorityCollector
