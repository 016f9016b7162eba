import SensorityCollector.Proofs.Application

/-!
# What the application comes to on a connection

While the library rejects no request, an observer of the application is waiting for the one
acknowledgement under way to it, or is settled. So the ids that observers keep from a connection
that was lost do no harm here, although nobody resets them.
-/

namespace SensorityCollector

open Transition

namespace Application

open Sharing

variable {config : String → Option String} {s t : State} {e : Event} {C : State → Event → Prop}
  {n : ℕ} {o : SensorDataObserver} {topics : List (String × Sensor)}

/-- The library rejects no request. -/
def Accepted (s : State) : Event → Prop
  | .connect rc _ => NoneRejected rc s.observers
  | _ => True

/-- Nor does the broker refuse what it is asked for. -/
def Granted (s : State) (e : Event) : Prop :=
  Accepted s e ∧ ∀ qos, e = .serve qos → qos.refused = false

/-- How far the subscription of the `n`-th observer has come on a connection. -/
inductive Stage (n : ℕ) (o : SensorDataObserver) (s : State) : Prop
  | waiting : own n s.unacknowledged = [⟨n, .subscribe o._mid o._topic⟩] → o._subscribe = true →
      Stage n o s
  | settled : own n s.unacknowledged = [] → o._mid = InvalidMessageId → o._subscribe = false →
      o._subscribed = true → Stage n o s

theorem own_perm {rs rs' : List Sent} (h : rs.Perm rs') : (own n rs).Perm (own n rs') :=
  h.filter _

/-- An acknowledgement has the id of its own observer, and of nobody else. -/
theorem Stage.mid_eq_iff (h : Stage n o s) (hc : Consistent topics s) {a : Ack} (ha : a ∈ s.acks) :
    a.sent.request.mid = o._mid ↔ a.sent.owner = n := by
  have hmem : a.sent ∈ s.unacknowledged := mem_unacknowledged.2 (.inr ⟨a, ha, rfl⟩)
  constructor
  · intro hmid
    rcases h with ⟨hown, -⟩ | ⟨-, hzero, -, -⟩
    · have hlatest : (⟨n, .subscribe o._mid o._topic⟩ : Sent) ∈ own n s.unacknowledged := by
        simp [hown]
      rw [hc.eq_of_mid hmem (mem_own.1 hlatest).1 hmid]
    · exact absurd (hmid.trans hzero) (hc.fresh _ hmem)
  · intro hn
    have hmem : a.sent ∈ own n s.unacknowledged := mem_own.2 ⟨hmem, hn⟩
    rcases h with ⟨hown, -⟩ | ⟨hown, -⟩
    · rw [hown, List.mem_singleton] at hmem
      rw [hmem]
      rfl
    · simp [hown] at hmem

theorem Stage.of_perm (h : Stage n o s) (hperm : t.unacknowledged.Perm s.unacknowledged) :
    Stage n o t := by
  have hown := own_perm (n := n) hperm
  rcases h with ⟨hs, hsub⟩ | ⟨hs, hmid, hsub, hsubscribed⟩
  · rw [hs] at hown
    exact .waiting (List.perm_singleton.1 hown) hsub
  · rw [hs] at hown
    exact .settled (List.perm_nil.1 hown) hmid hsub hsubscribed

theorem Stage.acknowledge (h : Stage n o s) (hc : Consistent topics s) (hw : Wishing s) {a : Ack}
    (ha : a ∈ s.acks) (hperm : (a.sent :: t.unacknowledged).Perm s.unacknowledged) :
    Stage n (o.acknowledge a.sent.request) t := by
  have hiff := h.mid_eq_iff hc ha
  have hown := own_perm (n := n) hperm
  have hsub := hw.subscribes _ (mem_unacknowledged.2 (.inr ⟨a, ha, rfl⟩))
  by_cases hn : a.sent.owner = n
  · rw [SensorDataObserver.acknowledge_of_eq (hiff.2 hn)]
    refine .settled ?_ rfl rfl hsub
    have hlen := hown.length_eq
    have hle : (own n s.unacknowledged).length ≤ 1 := by
      rcases h with ⟨hs, -⟩ | ⟨hs, -⟩ <;> simp [hs]
    rw [show own n (a.sent :: t.unacknowledged) = a.sent :: own n t.unacknowledged by
      simp [own, hn], List.length_cons] at hlen
    exact List.length_eq_zero_iff.1 (by omega)
  · rw [SensorDataObserver.acknowledge_of_ne (mt hiff.1 hn)]
    rw [show own n (a.sent :: t.unacknowledged) = own n t.unacknowledged by
      simp [own, hn]] at hown
    rcases h with ⟨hs, hwish⟩ | ⟨hs, hmid, hwish, hsubscribed⟩
    · exact .waiting (List.perm_singleton.1 (hs ▸ hown)) hwish
    · exact .settled (List.perm_nil.1 (hs ▸ hown)) hmid hwish hsubscribed

theorem own_of_mem {o' : SensorDataObserver} {rs : List Sent} {mid : ℕ} (hs : Sends n o o' rs)
    (hmem : ⟨n, .subscribe mid o._topic⟩ ∈ rs) :
    own n rs = [⟨n, .subscribe mid o._topic⟩] ∧ o'._mid = mid := by
  have hown : (⟨n, .subscribe mid o._topic⟩ : Sent) ∈ own n rs := mem_own.2 ⟨hmem, rfl⟩
  rcases hs.requests with ⟨hnone, -⟩ | ⟨r, hr, hmid, -, -⟩
  · simp [hnone] at hown
  · rw [hr, List.mem_singleton] at hown
    obtain rfl : Request.subscribe mid o._topic = r := congrArg Sent.request hown
    exact ⟨hr, hmid⟩

theorem Stage.connect {rc : ℕ → ℤ} {mid : ℕ → ℕ} (hw : Wishing s) (hc : s.connected = false)
    (hrc : NoneRejected rc s.observers)
    (hsend : Sending s t (MqttClient.emitConnectSignal true
      (fun n => MqttClient.subscribe (rc n) (mid n)) 0 s.observers).requests)
    (ho : t.observers[n]? = some o) : Stage n o t := by
  obtain ⟨p, hp, hsends⟩ := hsend.observers n o ho
  have hpending := hw.pending hc (List.mem_of_getElem? hp)
  have hmem := (emit_accepted mid s.observers 0 (by simpa [NoneRejected] using hrc)).2 n p hp
    hpending
  rw [Nat.zero_add] at hmem
  obtain ⟨hown, hmid⟩ := own_of_mem hsends hmem
  refine .waiting ?_ (hsends.subscribe hpending)
  have hperm := own_perm (n := n) hsend.unacknowledged
  rw [hw.idle hc, List.nil_append, hown] at hperm
  rw [List.perm_singleton.1 hperm, hmid, hsends.topic]

/-- While no request is rejected, everyone has a stage on a connection. -/
def Staged (s : State) : Prop :=
  s.connected = true → ∀ n o, s.observers[n]? = some o → Stage n o s

theorem Staged.step (h : Staged s) (hc : Consistent topics s) (hw : Wishing s)
    (he : Accepted s e) (hs : (system config).step s e t) : Staged t := by
  cases step_served hs with
  | connect rc mid t hdown ht hlen hsend => exact fun _ n o ho => .connect hw hdown he hsend ho
  | disconnect hup => exact fun hf => by simp at hf
  | serve r rest qos hup hsent =>
    have hperm := unacknowledged_serve (s := s)
      (t := { s with sent := rest, acks := s.acks ++ [⟨r, qos⟩],
                     held := hold (!qos.refused) s.held r.request }) hsent rfl rfl
    exact fun _ n o ho => (h hup n o ho).of_perm hperm
  | acknowledge a hup ha =>
    have hperm := unacknowledged_acknowledge (s := s)
      (t := { s with acks := s.acks.erase a,
                     observers := s.observers.map fun o => o.acknowledge a.sent.request,
                     heard := s.heard ++ [a] }) ha rfl rfl
    intro _ n o ho
    obtain ⟨p, hp, rfl⟩ := Option.map_eq_some_iff.1 ((List.getElem?_map).symm.trans ho)
    exact (h hup n p hp).acknowledge hc hw ha hperm

theorem staged (h : (system config).ReachableBy Accepted s) : Staged s := by
  refine h.invariant (fun s hs => ?_) fun s e t hr hp hc hs => ?_
  · obtain ⟨observers, hperm, rfl⟩ := init_iff.1 hs
    exact fun hf => by simp [start, Sharing.start] at hf
  · obtain ⟨topics, hcons⟩ := exists_consistent hr
    exact hp.step hcons (wishing hr) hc hs

/-- An acknowledgement settles the observer that has asked for it, which then waits for nothing
more, and changes no other, whatever ids are left from connections that were lost. -/
theorem acknowledged_own (config : String → Option String) {s t : State}
    (h : (system config).ReachableBy Accepted s) {a : Ack}
    (hs : (system config).step s (.acknowledge a) t) {n : ℕ} {o : SensorDataObserver}
    (ho : s.observers[n]? = some o) :
    t.observers[n]? = some (if a.sent.owner = n
        then { o with _subscribe := false, _subscribed := true, _mid := InvalidMessageId } else o)
      ∧ (a.sent.owner = n → a.sent.request = .subscribe o._mid o._topic
        ∧ own n t.unacknowledged = []) := by
  obtain ⟨topics, hc⟩ := exists_consistent h
  have hst := staged h
  have hw := wishing h
  cases step_served hs with
  | acknowledge _ hup ha =>
    have hstage := hst hup n o ho
    have hiff := hstage.mid_eq_iff hc ha
    have hmem : a.sent ∈ s.unacknowledged := mem_unacknowledged.2 (.inr ⟨a, ha, rfl⟩)
    have hperm := unacknowledged_acknowledge (s := s)
      (t := { s with acks := s.acks.erase a,
                     observers := s.observers.map fun o => o.acknowledge a.sent.request,
                     heard := s.heard ++ [a] }) ha rfl rfl
    refine ⟨?_, fun hn => ⟨?_, ?_⟩⟩
    · rw [List.getElem?_map, ho]
      by_cases hn : a.sent.owner = n
      · simp [SensorDataObserver.acknowledge_of_eq (hiff.2 hn), hn, hw.subscribes _ hmem]
      · simp [SensorDataObserver.acknowledge_of_ne (mt hiff.1 hn), hn]
    · have hown : a.sent ∈ own n s.unacknowledged := mem_own.2 ⟨hmem, hn⟩
      rcases hstage with ⟨hlatest, -⟩ | ⟨hnone, -⟩
      · rw [hlatest, List.mem_singleton] at hown
        exact congrArg Sent.request hown
      · simp [hnone] at hown
    · rcases hstage.acknowledge hc hw ha hperm with ⟨-, hwish⟩ | ⟨hnone, -⟩
      · simp [SensorDataObserver.acknowledge_of_eq (hiff.2 hn)] at hwish
      · exact hnone

/-- The first SUBACK of the second connection has the id that the last observer has had on the
first. -/
theorem acknowledged_own_reused : ∃ t : State,
    t.observers[7]?.map (fun o => (o._mid, o._subscribe)) = some (1, true) := by
  have h0 : (system fun _ => none).ReachableBy Accepted (start waiting) := .init init_waiting
  have h1 := h0.step (e := Event.connect (fun _ => 0) fun n => n + 1) (fun _ _ _ _ => rfl)
    ⟨rfl, .connect rfl rfl ⟨by decide, by decide, by decide⟩⟩
  have h2 := h1.step (e := Event.disconnect) trivial ⟨rfl, .disconnect rfl rfl⟩
  have h3 := h2.step (e := Event.connect (fun _ => 0) fun n => 8 - n) (fun _ _ _ _ => rfl)
    ⟨rfl, .connect rfl rfl ⟨by decide, by decide, by decide⟩⟩
  have h4 := h3.step (e := Event.serve [1]) trivial ⟨rfl, .serve rfl rfl⟩
  have h := acknowledged_own _ h4 (a := ⟨⟨0, .subscribe 8 "temperature"⟩, [1]⟩) (n := 7)
    ⟨rfl, .acknowledge rfl (by decide)⟩ rfl
  exact ⟨_, (congrArg (Option.map fun o => (o._mid, o._subscribe)) h.1).trans rfl⟩

/-! ## What the broker has -/

/-- On a connection, the broker has each topic or is being asked for it. -/
def Covered (s : State) : Prop :=
  s.connected = true → ∀ o ∈ s.observers, o._topic ∈ s.held
    ∨ ∃ r ∈ s.sent, r.request.isSubscribe = true ∧ r.request.topic = o._topic

theorem mem_hold_subscribe {r : Request} (hr : r.isSubscribe = true) {held : List String}
    {topic : String} : topic ∈ hold true held r ↔ topic = r.topic ∨ topic ∈ held := by
  rcases r with ⟨mid, topic'⟩ | ⟨mid, topic'⟩
  · simp [hold, Request.topic]
  · cases hr

theorem Covered.step (h : Covered s) (hw : Wishing s) (he : Granted s e)
    (hs : (system config).step s e t) : Covered t := by
  cases step_served hs with
  | connect rc mid t hdown ht hlen hsend =>
    intro _ o ho
    obtain ⟨n, hn, rfl⟩ := List.mem_iff_getElem.1 ho
    obtain ⟨p, hp, hsends⟩ := hsend.observers n _ (List.getElem?_eq_getElem hn)
    have hmem := (emit_accepted mid s.observers 0 (by simpa [Accepted, NoneRejected] using he.1)).2
      n p hp (hw.pending hdown (List.mem_of_getElem? hp))
    exact .inr ⟨⟨0 + n, .subscribe (mid (0 + n)) p._topic⟩,
      hsend.sent ▸ List.mem_append_right _ hmem, rfl, hsends.topic.symm⟩
  | disconnect hup => exact fun hf => by simp at hf
  | serve r rest qos hup hsent =>
    intro _ o ho
    have hsub := hw.subscribes r (mem_unacknowledged.2 (.inl (by simp [hsent])))
    have hqos : (!qos.refused) = true := by simp [he.2 qos rfl]
    simp only [hqos]
    rcases h hup o ho with hheld | ⟨q, hq, hqs, htopic⟩
    · exact .inl ((mem_hold_subscribe hsub).2 (.inr hheld))
    · rw [hsent, List.mem_cons] at hq
      rcases hq with rfl | hq
      · exact .inl ((mem_hold_subscribe hsub).2 (.inl htopic.symm))
      · exact .inr ⟨q, hq, hqs, htopic⟩
  | acknowledge a hup ha =>
    intro _ o' ho'
    obtain ⟨o, ho, rfl⟩ := List.mem_map.1 ho'
    rw [acknowledge_topic]
    exact h hup o ho

theorem covered (h : (system config).ReachableBy Granted s) : Covered s := by
  refine h.invariant (fun s hs => ?_) fun s e t hr hp hc hs => hp.step (wishing hr) hc hs
  obtain ⟨observers, -, rfl⟩ := init_iff.1 hs
  exact fun hf => by simp [start, Sharing.start] at hf

/-! ## Coming to rest -/

/-- How many steps the broker and the network still have to make for what is under way. -/
def due (s : State) : ℕ := 2 * s.sent.length + s.acks.length

/-- The broker serves, granting what it is asked for, or an acknowledgement arrives. -/
def Answers (_ : State) : Event → Prop
  | .serve qos => qos.refused = false
  | .acknowledge _ => True
  | _ => False

theorem Answers.granted (h : Answers s e) : Granted s e := by
  cases e with
  | serve qos => exact ⟨trivial, by rintro q ⟨⟩; exact h⟩
  | acknowledge a => exact ⟨trivial, by simp⟩
  | _ => exact h.elim

theorem answers_step (hup : s.connected = true) (h : Answers s e)
    (hs : (system config).step s e t) : t.connected = true ∧ due t + 1 = due s := by
  cases step_served hs with
  | connect => exact h.elim
  | disconnect => exact h.elim
  | serve r rest qos _ hsent =>
    refine ⟨hup, ?_⟩
    simp only [due, hsent, List.length_cons, List.length_append, List.length_nil]
    omega
  | acknowledge a _ ha =>
    refine ⟨hup, ?_⟩
    have := List.length_erase_add_one ha
    simp only [due]
    omega

theorem exists_answer (hup : s.connected = true) (h : due s ≠ 0) :
    ∃ e t, Answers s e ∧ (system config).step s e t := by
  rcases hsent : s.sent with _ | ⟨r, rest⟩
  · rcases hacks : s.acks with _ | ⟨a, acks⟩
    · simp [due, hsent, hacks] at h
    · exact ⟨.acknowledge a, _, trivial, rfl, .acknowledge hup (by simp [hacks])⟩
  · exact ⟨.serve [1], _, rfl, rfl, .serve hup hsent⟩

/-- Everybody knows that its topic is subscribed, and it is. -/
def Settled (s : State) : Prop :=
  ∀ o ∈ s.observers, o._topic ∈ s.held ∧ o._subscribed = true ∧ o._subscribe = false
    ∧ o._mid = InvalidMessageId

theorem settled_of_due (h : (system config).ReachableBy Granted s) (hup : s.connected = true)
    (hdue : due s = 0) : Settled s := by
  have hsent : s.sent = [] := List.length_eq_zero_iff.1 (by simp only [due] at hdue; omega)
  have hacks : s.acks = [] := List.length_eq_zero_iff.1 (by simp only [due] at hdue; omega)
  intro o ho
  obtain ⟨n, hn, rfl⟩ := List.mem_iff_getElem.1 ho
  have hstage := staged (h.mono fun _ _ hc => hc.1) hup n _ (List.getElem?_eq_getElem hn)
  have hheld : s.observers[n]._topic ∈ s.held := by
    simpa [hsent] using covered h hup _ ho
  rcases hstage with ⟨hown, -⟩ | ⟨-, hmid, hsub, hsubscribed⟩
  · simp [own, State.unacknowledged, hsent, hacks] at hown
  · exact ⟨hheld, hsubscribed, hsub, hmid⟩

/-- On a connection, whatever was lost before, each topic is subscribed or being asked for; and the
steps still due, which can be made and are all there is without another loss, settle everyone. -/
theorem settles (config : String → Option String) {s : State}
    (h : (system config).ReachableBy Granted s) (hup : s.connected = true) :
    Covered s ∧ (∃ es t, (system config).Run Answers s es t ∧ es.length = due s)
      ∧ ∀ es t, (system config).Run Answers s es t →
        es.length ≤ due s ∧ (es.length = due s → Settled t) := by
  have hstep : ∀ s e t, s.connected = true → Answers s e → (system config).step s e t →
      t.connected = true ∧ due t + 1 = due s := fun s e t hs he ht => answers_step hs he ht
  refine ⟨covered h, ?_, fun es t hr => ?_⟩
  · obtain ⟨es, t, hr, ht⟩ := System.exists_run_left hstep
      (fun s hs hd => exists_answer hs hd) hup
    have := (hr.length_add hstep hup).2
    exact ⟨es, t, hr, by omega⟩
  · obtain ⟨hup', hlen⟩ := hr.length_add hstep hup
    refine ⟨by omega, fun heq => ?_⟩
    exact settled_of_due ((hr.mono fun _ _ he => he.granted).reachableBy h) hup' (by omega)

/-- The first connection is lost before the broker has served anything. -/
theorem settles_again : ∃ s es t, s.observers.length = 8 ∧ es.length = 16
    ∧ (system fun _ => none).Run Answers s es t ∧ Settled t := by
  have h0 : (system fun _ => none).ReachableBy Granted (start waiting) := .init init_waiting
  have h1 := h0.step (e := Event.connect (fun _ => 0) fun n => n + 1)
    ⟨fun _ _ _ _ => rfl, by simp⟩ ⟨rfl, .connect rfl rfl ⟨by decide, by decide, by decide⟩⟩
  have h2 := h1.step (e := Event.disconnect) ⟨trivial, by simp⟩ ⟨rfl, .disconnect rfl rfl⟩
  have h3 := h2.step (e := Event.connect (fun _ => 0) fun n => n + 1)
    ⟨fun _ _ _ _ => rfl, by simp⟩ ⟨rfl, .connect rfl rfl ⟨by decide, by decide, by decide⟩⟩
  obtain ⟨-, ⟨es, t, hr, hlen⟩, hall⟩ := settles _ h3 rfl
  exact ⟨_, es, t, rfl, hlen.trans (by decide), hr, (hall es t hr).2 hlen⟩

/-! ## The shutdown -/

theorem unsubscribe_refused (turn : ℕ → Turn)
    (hturn : ∀ i, (turn i).connected = false ∧ (turn i).network = id) :
    ∀ (n : ℕ) (observers : List SensorDataObserver),
      CompositeDataObserver.unsubscribe turn n observers = (observers,
        if ∃ o ∈ observers, o._subscribed = true
        then some (makeException "Unsubscribe from the topic" MOSQ_ERR_NO_CONN) else none)
  | n, [] => by simp [CompositeDataObserver.unsubscribe]
  | n, o :: rest => by
    have ih := unsubscribe_refused turn hturn (n + 1) rest
    have hrc := (turn n).no_conn (hturn n).1
    rcases hs : o._subscribed with _ | _
    · simp [CompositeDataObserver.unsubscribe, (hturn n).2, SensorDataObserver.unsubscribe, hs, ih]
    · simp [CompositeDataObserver.unsubscribe, (hturn n).2, SensorDataObserver.unsubscribe, hs,
        MqttClient.unsubscribe, hrc, MOSQ_ERR_NO_CONN, MOSQ_ERR_SUCCESS]

/-- What is kept whatever the library answers: what is under way has the id of the observer it is
from, and somebody is subscribed once an acknowledgement has come. -/
structure Awaited (s : State) : Prop where
  awaited : ∀ r ∈ s.unacknowledged, ∃ o, s.observers[r.owner]? = some o ∧ o._mid = r.request.mid
  subscribed : true ∈ s.observers.map (·._subscribed) ↔ s.heard ≠ []

theorem Awaited.connect {rs : List Sent} (h : Awaited s) (hw : Wishing s)
    (hdown : s.connected = false) (hlen : t.observers.length = s.observers.length)
    (hsend : Sending s t rs) : Awaited t where
  awaited r hr := by
    have hr := hsend.unacknowledged.subset hr
    rw [hw.idle hdown, List.nil_append] at hr
    have ho := List.getElem?_eq_getElem (hsend.owners r hr)
    obtain ⟨o, -, hsends⟩ := hsend.observers r.owner _ ho
    have hown : r ∈ own r.owner rs := mem_own.2 ⟨hr, rfl⟩
    rcases hsends.requests with ⟨hnone, -⟩ | ⟨q, hq, hmid, -, -⟩
    · simp [hnone] at hown
    · rw [hq, List.mem_singleton] at hown
      exact ⟨_, ho, hmid.trans (congrArg (·.request.mid) hown).symm⟩
  subscribed := by
    have hsame : t.observers.map (·._subscribed) = s.observers.map (·._subscribed) := by
      refine List.ext_getElem (by simp [hlen]) fun n hn _ => ?_
      rw [List.length_map] at hn
      obtain ⟨o, ho, hsends⟩ := hsend.observers n _ (List.getElem?_eq_getElem hn)
      obtain ⟨hn', rfl⟩ := List.getElem?_eq_some_iff.1 ho
      simpa using hsends.subscribed
    rw [hsame, hsend.heard, h.subscribed]

theorem Awaited.acknowledge (h : Awaited s) (hc : Consistent topics s) (hw : Wishing s) {a : Ack}
    (ha : a ∈ s.acks) (hperm : (a.sent :: t.unacknowledged).Perm s.unacknowledged)
    (hobservers : t.observers = s.observers.map fun o => o.acknowledge a.sent.request)
    (hheard : t.heard = s.heard ++ [a]) : Awaited t where
  awaited r hr := by
    obtain ⟨o, ho, hmid⟩ := h.awaited r (hperm.subset (List.mem_cons_of_mem _ hr))
    have hnodup := (hperm.map fun r => r.request.mid).nodup_iff.2 hc.nodup
    have hne : a.sent.request.mid ≠ o._mid := by
      rw [hmid]
      exact fun heq => (List.nodup_cons.1 hnodup).1 (List.mem_map.2 ⟨r, hr, heq.symm⟩)
    refine ⟨o, ?_, hmid⟩
    rw [hobservers, List.getElem?_map, ho, Option.map_some,
      SensorDataObserver.acknowledge_of_ne hne]
  subscribed := by
    have hmem : a.sent ∈ s.unacknowledged := mem_unacknowledged.2 (.inr ⟨a, ha, rfl⟩)
    obtain ⟨o, ho, hmid⟩ := h.awaited _ hmem
    refine iff_of_true ?_ (by simp [hheard])
    rw [hobservers, List.map_map]
    refine List.mem_map.2 ⟨o, List.mem_of_getElem? ho, ?_⟩
    simp [SensorDataObserver.acknowledge_of_eq hmid.symm, hw.subscribes _ hmem]

theorem Awaited.step (h : Awaited s) (hc : Consistent topics s) (hw : Wishing s)
    (hs : (system config).step s e t) : Awaited t := by
  cases step_served hs with
  | connect rc mid t hdown ht hlen hsend => exact h.connect hw hdown hlen hsend
  | disconnect hup =>
    refine ⟨by simp [State.unacknowledged], ?_⟩
    simpa [Function.comp_def, (onDisconnect_keeps _).2] using h.subscribed
  | serve r rest qos hup hsent =>
    have hperm := unacknowledged_serve (s := s)
      (t := { s with sent := rest, acks := s.acks ++ [⟨r, qos⟩],
                     held := hold (!qos.refused) s.held r.request }) hsent rfl rfl
    exact ⟨fun q hq => h.awaited q (hperm.subset hq), h.subscribed⟩
  | acknowledge a hup ha =>
    exact h.acknowledge hc hw ha (unacknowledged_acknowledge ha rfl rfl) rfl rfl

theorem awaited (h : (system config).Reachable s) : Awaited s := by
  refine h.invariant (fun s hs => ?_) fun s e t hr hp hc hs => ?_
  · obtain ⟨observers, hperm, rfl⟩ := init_iff.1 hs
    refine ⟨by simp [start, Sharing.start, State.unacknowledged],
      iff_of_false (fun hmem => ?_) (by simp [start, Sharing.start])⟩
    obtain ⟨o, ho, hsubscribed⟩ := List.mem_map.1 hmem
    obtain ⟨p, hp, rfl⟩ := List.mem_map.1 ho
    rw [createObserver_eq (hperm.subset hp)] at hsubscribed
    simp [pending, SensorDataObserver.create, SensorDataObserver.setUp] at hsubscribed
  · obtain ⟨topics, hcons⟩ := exists_consistent hr
    exact hp.step hcons (wishing hr) hs

/-- Once the client's connection is closed, the shutdown of an application that has ever had a
subscription acknowledged ends in an exception that leaves every observer and the connector as they
were; any other is carried out. -/
theorem shutdown_completes_iff {J T W : Type*} (config : String → Option String) {s : State}
    (h : (system config).Reachable s) (turn : ℕ → Turn)
    (hturn : ∀ i, (turn i).connected = false ∧ (turn i).network = id)
    (stopped : Option (DataStorage.State J T W)) (sub : StorageSubsystem J T W)
    (hsub : sub._observer = some s.observers) :
    ((sub.uninitialize turn stopped).2 = none ↔ s.heard = [])
      ∧ (s.heard ≠ [] → sub.uninitialize turn stopped = ({ sub with _storage := stopped },
          some (makeException "Unsubscribe from the topic" MOSQ_ERR_NO_CONN)))
      ∧ (s.heard = [] → sub.uninitialize turn stopped = (⟨stopped,
          some (CompositeDataObserver.tearDown s.observers), false⟩, none)) := by
  have hloop := unsubscribe_refused turn hturn 0 s.observers
  have hsubscribed : (∃ o ∈ s.observers, o._subscribed = true) ↔ s.heard ≠ [] := by
    rw [← (awaited h).subscribed, List.mem_map]
  simp only [hsubscribed] at hloop
  by_cases hheard : s.heard = []
  · simp [StorageSubsystem.uninitialize, hsub, hloop, hheard]
  · simp [StorageSubsystem.uninitialize, hsub, hloop, hheard]

/-- The library has rejected the second request, and the SUBACK of the first one has come. -/
theorem shutdown_aborts_subscribed : ∃ sub : StorageSubsystem ℕ Unit Unit,
    (sub.uninitialize (fun _ => ⟨id, false, MOSQ_ERR_NO_CONN, 0, fun _ => rfl⟩) none).2
      = some (makeException "Unsubscribe from the topic" MOSQ_ERR_NO_CONN) := by
  have h0 : (system fun _ => none).Reachable (start waiting) := .init init_waiting
  have h1 := h0.next (e := Event.connect (fun n => n) fun n => n + 1)
    ⟨rfl, .connect rfl rfl ⟨by decide, by decide, by decide⟩⟩
  have h2 := h1.next (e := Event.serve [1]) ⟨rfl, .serve rfl rfl⟩
  have h3 := h2.next (e := Event.acknowledge ⟨⟨0, .subscribe 1 "temperature"⟩, [1]⟩)
    ⟨rfl, .acknowledge rfl (by decide)⟩
  have h4 := h3.next (e := Event.disconnect) ⟨rfl, .disconnect rfl rfl⟩
  have h := (shutdown_completes_iff _ h4 (fun _ => ⟨id, false, MOSQ_ERR_NO_CONN, 0, fun _ => rfl⟩)
    (fun _ => ⟨rfl, rfl⟩) none (⟨none, some _, true⟩ : StorageSubsystem ℕ Unit Unit) rfl).2.1
    (by decide)
  exact ⟨_, congrArg Prod.snd h⟩

end Application

end SensorityCollector
