import SensorityCollector.Proofs.Emission

/-!
# Acknowledgements and the one message id an observer keeps

On one connection with a broker that grants, the latest request of an observer is on its way to the
broker, on its way back, or done with (`Agrees`). Only an acknowledgement of it has its id, so the
fields change when it arrives and not before, and by then the broker has served it.
-/

namespace SensorityCollector

open Transition

namespace Sharing

open SensorDataObserver

variable {durable : Bool} {topics : List (String × Sensor)} {s t : State} {e : Event} {n : ℕ}
  {o : SensorDataObserver}

/-- The connection is not lost, and the broker grants what it is asked for. -/
def Granting : State → Event → Prop
  | _, .disconnect => False
  | _, .serve qos => qos.refused = false
  | _, _ => True

/-- How far the latest request of the `n`-th observer has come, and what its fields make of it. -/
inductive Agrees (n : ℕ) (o : SensorDataObserver) (s : State) : Prop
  | sent (r : Request) : (own n s.issued).getLast? = some ⟨n, r⟩ →
      (own n s.sent).getLast? = some ⟨n, r⟩ → o._mid = r.mid → Agrees n o s
  | served (r : Request) (qos : MqttGrantedQoS) : (own n s.issued).getLast? = some ⟨n, r⟩ →
      own n s.sent = [] → ⟨⟨n, r⟩, qos⟩ ∈ s.acks → o._mid = r.mid →
      (o._topic ∈ s.held ↔ r.isSubscribe = true) → Agrees n o s
  | settled : own n s.sent = [] → o._mid = InvalidMessageId →
      (o._subscribed = true ↔ o._topic ∈ s.held) → Agrees n o s

theorem mem_of_getLast_own {rs : List Sent} {r : Sent} (h : (own n rs).getLast? = some r) :
    r ∈ rs :=
  (mem_own.1 (List.mem_of_getLast? h)).1

/-- An acknowledgement that has the id of an observer is the one of its latest request. -/
theorem Agrees.served_of_mid (hc : Consistent topics s) (h : Agrees n o s) {a : Ack}
    (ha : a ∈ s.acks) (hmid : a.sent.request.mid = o._mid) :
    a.sent.owner = n ∧ own n s.sent = []
      ∧ (o._topic ∈ s.held ↔ a.sent.request.isSubscribe = true) := by
  have hmem : a.sent ∈ s.unacknowledged := mem_unacknowledged.2 (.inr ⟨a, ha, rfl⟩)
  rcases h with ⟨r, -, hr, hm⟩ | ⟨r, qos, -, hnone, hack, hm, hheld⟩ | ⟨-, hm, -⟩
  · exact absurd (hm.symm.trans hmid.symm) (hc.disjoint (mem_of_getLast_own hr) ha)
  · have heq : a.sent = ⟨n, r⟩ := hc.eq_of_mid hmem
      (mem_unacknowledged.2 (.inr ⟨_, hack, rfl⟩)) (hmid.trans hm)
    rw [heq]
    exact ⟨rfl, hnone, hheld⟩
  · exact absurd (hmid.trans hm) (hc.fresh _ hmem)

theorem Agrees.acknowledge (hc : Consistent topics s) (h : Agrees n o s) {a : Ack}
    (ha : a ∈ s.acks) {t : State} (hissued : t.issued = s.issued) (hsent : t.sent = s.sent)
    (hacks : t.acks = s.acks.erase a) (hheld : t.held = s.held) :
    Agrees n (o.acknowledge a.sent.request) t := by
  by_cases hmid : a.sent.request.mid = o._mid
  · obtain ⟨-, hnone, hserved⟩ := h.served_of_mid hc ha hmid
    rw [acknowledge_of_eq hmid]
    refine .settled (hsent ▸ hnone) rfl ?_
    rw [hheld]
    exact hserved.symm
  · rw [acknowledge_of_ne hmid]
    rcases h with ⟨r, hlast, hr, hm⟩ | ⟨r, qos, hlast, hnone, hack, hm, hserved⟩ | ⟨hnone, hm, hs⟩
    · exact .sent r (hissued ▸ hlast) (hsent ▸ hr) hm
    · have hne : (⟨⟨n, r⟩, qos⟩ : Ack) ≠ a := fun heq => hmid (by rw [← heq]; exact hm.symm)
      refine .served r qos (hissued ▸ hlast) (hsent ▸ hnone) ?_ hm (hheld ▸ hserved)
      rw [hacks]
      exact (List.mem_erase_of_ne hne).2 hack
    · exact .settled (hsent ▸ hnone) hm (hheld ▸ hs)

theorem Agrees.send {o' : SensorDataObserver} {rs : List Sent} (h : Agrees n o s)
    (hsend : Sending s t rs) (hs : Sends n o o' rs) : Agrees n o' t := by
  have hissued : own n t.issued = own n s.issued ++ own n rs := by rw [hsend.issued, own_append]
  have hsent : own n t.sent = own n s.sent ++ own n rs := by rw [hsend.sent, own_append]
  rcases hs.requests with ⟨hnone, hmid⟩ | ⟨r, hr, hmid, -, -⟩
  · rw [hnone, List.append_nil] at hissued hsent
    rcases h with ⟨r, hlast, hr, hm⟩ | ⟨r, qos, hlast, hno, hack, hm, hserved⟩ | ⟨hno, hm, heq⟩
    · exact .sent r (hissued ▸ hlast) (hsent ▸ hr) (hmid.trans hm)
    · refine .served r qos (hissued ▸ hlast) (hsent ▸ hno) (hsend.acks ▸ hack) (hmid.trans hm) ?_
      rw [hs.topic, hsend.held]
      exact hserved
    · refine .settled (hsent ▸ hno) (hmid.trans hm) ?_
      rw [hs.topic, hs.subscribed, hsend.held]
      exact heq
  · refine .sent r ?_ ?_ hmid
    · rw [hissued, hr, List.getLast?_concat]
    · rw [hsent, hr, List.getLast?_concat]

theorem mem_hold {r : Request} {held : List String} {topic : String} :
    topic ∈ hold true held r ↔ if r.topic = topic then r.isSubscribe = true else topic ∈ held := by
  rcases r with ⟨mid, topic'⟩ | ⟨mid, topic'⟩
  · by_cases h : topic' = topic
    · simp [hold, Request.topic, Request.isSubscribe, h]
    · simp [hold, Request.topic, h, Ne.symm h]
  · by_cases h : topic' = topic
    · simp [hold, Request.topic, Request.isSubscribe, h]
    · simp [hold, Request.topic, h, Ne.symm h]

/-- Serving the request of an observer settles what the broker has for its topic. -/
theorem Agrees.serve_own {r : Sent} (h : Agrees r.owner o s) {rest : List Sent}
    (hr : s.sent = r :: rest) (htopic : r.request.topic = o._topic) (qos : MqttGrantedQoS)
    (hissued : t.issued = s.issued) (hsent : t.sent = rest)
    (hacks : t.acks = s.acks ++ [⟨r, qos⟩]) (hheld : t.held = hold true s.held r.request) :
    Agrees r.owner o t := by
  have hcons : own r.owner s.sent = r :: own r.owner rest := by rw [hr]; simp [own]
  rcases h with ⟨q, hlast, hq, hm⟩ | ⟨-, -, -, hnone, -⟩ | ⟨hnone, -, -⟩
  · rw [hcons] at hq
    rcases hrest : own r.owner rest with _ | ⟨p, ps⟩
    · obtain rfl : r.request = q := by
        rw [hrest] at hq
        exact congrArg Sent.request (Option.some.inj hq)
      refine .served r.request qos (hissued ▸ hlast) (hsent ▸ hrest) (by rw [hacks]; simp) hm ?_
      rw [hheld, mem_hold, if_pos htopic]
    · rw [List.getLast?_cons_of_ne_nil (by simp [hrest])] at hq
      exact .sent q (hissued ▸ hlast) (hsent ▸ hq) hm
  · rw [hcons] at hnone
    cases hnone
  · rw [hcons] at hnone
    cases hnone

theorem Agrees.serve_other (h : Agrees n o s) {r : Sent} {rest : List Sent}
    (hr : s.sent = r :: rest) (hn : r.owner ≠ n) (htopic : r.request.topic ≠ o._topic)
    (qos : MqttGrantedQoS) (hissued : t.issued = s.issued) (hsent : t.sent = rest)
    (hacks : t.acks = s.acks ++ [⟨r, qos⟩]) (hheld : t.held = hold true s.held r.request) :
    Agrees n o t := by
  have hsame : own n t.sent = own n s.sent := by rw [hsent, hr]; simp [own, hn]
  have hiff : o._topic ∈ t.held ↔ o._topic ∈ s.held := by
    rw [hheld, mem_hold, if_neg htopic]
  rcases h with ⟨q, hlast, hq, hm⟩ | ⟨q, qos', hlast, hnone, hack, hm, hserved⟩ | ⟨hnone, hm, heq⟩
  · exact .sent q (hissued ▸ hlast) (hsame ▸ hq) hm
  · exact .served q qos' (hissued ▸ hlast) (hsame ▸ hnone)
      (by rw [hacks]; exact List.mem_append_left _ hack) hm (hiff.trans hserved)
  · exact .settled (hsame ▸ hnone) hm (heq.trans hiff.symm)

/-- As the topics are distinct, the request is the observer's own or has another topic. -/
theorem Agrees.serve (hc : Consistent topics s) (htopics : (topics.map Prod.fst).Nodup)
    (h : Agrees n o s) (ho : s.observers[n]? = some o) {r : Sent} {rest : List Sent}
    (hr : s.sent = r :: rest) (qos : MqttGrantedQoS) (hissued : t.issued = s.issued)
    (hsent : t.sent = rest) (hacks : t.acks = s.acks ++ [⟨r, qos⟩])
    (hheld : t.held = hold true s.held r.request) : Agrees n o t := by
  have hown := hc.topic n o ho
  have howner := hc.requests r (mem_unacknowledged.2 (.inl (hr ▸ List.mem_cons_self)))
  rcases eq_or_ne r.owner n with rfl | hn
  · have htopic : r.request.topic = o._topic := Option.some.inj (howner.symm.trans hown)
    exact h.serve_own hr htopic qos hissued hsent hacks hheld
  · refine h.serve_other hr hn (fun heq => ?_) qos hissued hsent hacks hheld
    rw [heq, ← hown] at howner
    have hlt := (List.getElem?_eq_some_iff.1 (howner.trans hown)).1
    exact hn ((List.getElem?_inj hlt htopics).1 howner)

theorem agrees_step (hc : Consistent topics s) (htopics : (topics.map Prod.fst).Nodup)
    (h : ∀ n o, s.observers[n]? = some o → Agrees n o s) (hg : Granting s e)
    (hs : Step durable s e t) : ∀ n o, t.observers[n]? = some o → Agrees n o t := by
  intro n o' ho'
  rcases step_moved hs with ⟨rs, -, -, -, hsend⟩ | _ | _ | ⟨r, rest, qos, hsent⟩ | ⟨a, ha⟩
  · obtain ⟨o, ho, hsends⟩ := hsend.observers n o' ho'
    exact (h n o ho).send hsend hsends
  · exact h n o' ho'
  · exact hg.elim
  · refine (h n o' ho').serve hc htopics ho' hsent qos rfl rfl rfl ?_
    rw [show qos.refused = false from hg]
    rfl
  · simp only [List.getElem?_map] at ho'
    obtain ⟨o, ho, rfl⟩ := Option.map_eq_some_iff.1 ho'
    exact (h n o ho).acknowledge hc ha rfl rfl rfl rfl

theorem agrees (htopics : (topics.map Prod.fst).Nodup)
    (h : (system durable topics).ReachableBy Granting s) :
    ∀ n o, s.observers[n]? = some o → Agrees n o s := by
  refine h.invariant (P := fun s => ∀ n o, s.observers[n]? = some o → Agrees n o s)
    (fun s hs n o ho => ?_) fun s e t hr hp hg hs => agrees_step (consistent hr) htopics hp hg hs
  obtain rfl : s = start topics := hs
  obtain ⟨p, -, rfl⟩ := observer_start ho
  refine .settled rfl rfl ?_
  simp [start, SensorDataObserver.setUp, SensorDataObserver.create]

/-- An observer keeps the id of its latest request, if that is not acknowledged, or none; nobody
else's acknowledgement changes it; and with nothing to be acknowledged it knows what the broker
has. -/
theorem observers_agree (durable : Bool) (topics : List (String × Sensor))
    (htopics : (topics.map Prod.fst).Nodup) {s : State}
    (h : (system durable topics).ReachableBy Granting s) {n : ℕ} {o : SensorDataObserver}
    (ho : s.observers[n]? = some o) :
    (o._mid = InvalidMessageId ∨ ∃ r ∈ s.unacknowledged,
        (own n s.issued).getLast? = some r ∧ o._mid = r.request.mid)
      ∧ (∀ a ∈ s.acks, a.sent.owner ≠ n → o.receive a = o)
      ∧ (own n s.unacknowledged = [] → (o._subscribed = true ↔ o._topic ∈ s.held)) := by
  have hc := consistent h
  have hagrees := agrees htopics h n o ho
  refine ⟨?_, fun a ha hn => ?_, fun hnone => ?_⟩
  · rcases hagrees with ⟨r, hlast, hr, hm⟩ | ⟨r, qos, hlast, -, hack, hm, -⟩ | ⟨-, hm, -⟩
    · exact .inr ⟨_, mem_unacknowledged.2 (.inl (mem_of_getLast_own hr)), hlast, hm⟩
    · exact .inr ⟨_, mem_unacknowledged.2 (.inr ⟨_, hack, rfl⟩), hlast, hm⟩
    · exact .inl hm
  · rw [SensorDataObserver.receive_eq]
    exact acknowledge_of_ne fun hmid => hn (hagrees.served_of_mid hc ha hmid).1
  · have hno : ∀ r : Request, (⟨n, r⟩ : Sent) ∉ s.unacknowledged := fun r hr =>
      List.not_mem_nil (hnone ▸ mem_own.2 ⟨hr, rfl⟩)
    rcases hagrees with ⟨r, -, hr, -⟩ | ⟨r, qos, -, -, hack, -⟩ | ⟨-, -, heq⟩
    · exact absurd (mem_unacknowledged.2 (.inl (mem_of_getLast_own hr))) (hno r)
    · exact absurd (mem_unacknowledged.2 (.inr ⟨_, hack, rfl⟩)) (hno r)
    · exact heq

/-- One of two observers subscribes over a connection, and its SUBACK comes. -/
theorem observers_agree_granted : ∃ s : State, ∃ o : SensorDataObserver,
    (system false [("gas", .gas), ("iaq", .iaq)]).ReachableBy Granting s
      ∧ s.observers[0]? = some o ∧ o._topic ∈ s.held ∧ o._subscribed = true := by
  have h0 : (system false [("gas", .gas), ("iaq", .iaq)]).ReachableBy Granting
      (start [("gas", .gas), ("iaq", .iaq)]) := .init rfl
  have h1 := h0.step (e := Event.connect (fun _ => 0) fun _ => 0) trivial
    (.connect rfl rfl ⟨by decide, by decide, by decide⟩)
  have h2 := h1.step (e := Event.subscribe 0 0 1) trivial
    (.subscribe rfl rfl ⟨by decide, by decide, by decide⟩)
  have h3 := h2.step (e := Event.serve [1]) rfl (.serve rfl rfl)
  have h4 := h3.step (e := Event.acknowledge ⟨⟨0, .subscribe 1 "gas"⟩, [1]⟩) trivial
    (.acknowledge rfl (by decide))
  have hagree := (observers_agree false _ (by decide) h4 (n := 0) rfl).2.2 (by decide)
  exact ⟨_, _, h4, rfl, by decide, hagree.2 (by decide)⟩

end Sharing

end SensorityCollector
