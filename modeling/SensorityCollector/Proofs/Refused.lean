import SensorityCollector.Proofs.Emission

/-!
# What an observer makes of a refusal

The slot of the subscribe signal drops the granted QoS, so a SUBACK with an observer's id subscribes
it and takes back its wish to be, whatever the broker has said. A refusal does no harm to an
observer that is subscribed already and wishes for nothing, or that waits for another id while it
wishes to be subscribed or has been granted its subscription before.
-/

namespace SensorityCollector

open Transition

def Ack.Refuses (a : Ack) (n : ℕ) : Prop :=
  a.sent.owner = n ∧ a.sent.request.isSubscribe = true ∧ a.qos.refused = true

def Ack.Grants (a : Ack) (n : ℕ) : Prop :=
  a.sent.owner = n ∧ a.sent.request.isSubscribe = true ∧ a.qos.refused = false

namespace Sharing

open SensorDataObserver

variable {durable : Bool} {topics : List (String × Sensor)} {s t : State} {e : Event} {n : ℕ}
  {o : SensorDataObserver} {a : Ack}

def State.Granted (s : State) (n : ℕ) : Prop := ∃ a ∈ s.heard, a.Grants n

def State.OnlyRefused (s : State) (n : ℕ) : Prop := (∃ a ∈ s.heard, a.Refuses n) ∧ ¬ s.Granted n

/-- Only refused, the observer asks again at the next connect, and never granted a subscription, it
has none to give up. -/
structure Honest (s : State) (n : ℕ) (o : SensorDataObserver) : Prop where
  again : s.OnlyRefused n → ∀ mid, ∃ o',
    o.onConnect true (MqttClient.subscribe MOSQ_ERR_SUCCESS mid)
      = .ok (o', some (.subscribe mid o._topic))
  nothing : ¬ s.Granted n → ∀ call, o.unsubscribe call = .ok (o, none)

/-- The acknowledgement, if it is a refusal, neither subscribes its observer nor takes back its
wish. -/
def Spares (s t : State) (a : Ack) : Prop :=
  ∀ n (o o' : SensorDataObserver), s.observers[n]? = some o → t.observers[n]? = some o' →
    a.Refuses n → (o._subscribed = false → o'._subscribed = false)
      ∧ (o._subscribe = true → o'._subscribe = true)

/-- A refusal finds its observer subscribed and without a wish, if it has the observer's id, else
with its wish or granted its subscription before. Another observer has the id of an acknowledgement,
kept from a lost connection, only if it has been granted its subscription, or if that is an UNSUBACK
and it has not been refused. -/
def Harmless (s : State) : Event → Prop
  | .acknowledge a => ∀ n (o : SensorDataObserver), s.observers[n]? = some o →
    (a.Refuses n → if a.sent.request.mid = o._mid
      then o._subscribed = true ∧ o._subscribe = false
      else o._subscribe = true ∨ s.Granted n)
    ∧ (a.sent.owner ≠ n → a.sent.request.mid = o._mid →
      s.Granted n ∨ a.sent.request.isSubscribe = false ∧ ¬ s.OnlyRefused n)
  | _ => True

theorem honest_iff : Honest s n o ↔ (s.OnlyRefused n → o._subscribe = true)
    ∧ (¬ s.Granted n → o._subscribed = false) := by
  constructor
  · rintro ⟨hagain, hnothing⟩
    refine ⟨fun h => ?_, fun h => ?_⟩
    · obtain ⟨o', ho'⟩ := hagain h 0
      by_contra hs
      rw [SensorDataObserver.onConnect_idle (by simpa using hs)] at ho'
      cases ho'
    · by_contra hs
      have := hnothing h (.error ⟨"", 0⟩)
      simp [SensorDataObserver.unsubscribe, hs] at this
  · rintro ⟨hagain, hnothing⟩
    refine ⟨fun h mid => ⟨{ o with _mid := mid }, ?_⟩, fun h call => ?_⟩
    · rw [SensorDataObserver.onConnect_pending (hagain h), SensorDataObserver.subscribe_up]
    · simp [SensorDataObserver.unsubscribe, hnothing h]

/-! ## What is known of an observer -/

/-- Whoever is subscribed or gives a subscription up was granted it, and whoever was only refused
still wishes for it. -/
structure Known (s : State) (n : ℕ) (o : SensorDataObserver) : Prop where
  again : s.OnlyRefused n → o._subscribe = true
  subscribed : ¬ s.Granted n → o._subscribed = false
  unsubscribe : ∀ r ∈ s.unacknowledged, r.owner = n → r.request.isSubscribe = false → s.Granted n

theorem Known.honest (h : Known s n o) : Honest s n o := honest_iff.2 ⟨h.again, h.subscribed⟩

theorem Known.of_quiet {o' : SensorDataObserver} (h : Known s n o) (hheard : t.heard = s.heard)
    (hsubscribe : o._subscribe = true → o'._subscribe = true)
    (hsubscribed : o'._subscribed = o._subscribed)
    (hsub : ∀ r ∈ t.unacknowledged, r.owner = n → r.request.isSubscribe = false →
      r ∈ s.unacknowledged ∨ o._subscribed = true) : Known t n o' := by
  have hgranted : t.Granted n ↔ s.Granted n := by unfold State.Granted; rw [hheard]
  have honly : t.OnlyRefused n ↔ s.OnlyRefused n := by
    unfold State.OnlyRefused
    rw [hgranted, hheard]
  refine ⟨fun ht => hsubscribe (h.again (honly.1 ht)), fun ht => ?_, fun r hr hn hk => ?_⟩
  · rw [hsubscribed]
    exact h.subscribed fun hs => ht (hgranted.2 hs)
  · refine hgranted.2 ?_
    rcases hsub r hr hn hk with hr | hs
    · exact h.unsubscribe r hr hn hk
    · by_contra hnot
      rw [h.subscribed hnot] at hs
      cases hs

theorem Known.send {o' : SensorDataObserver} {rs : List Sent} (h : Known s n o)
    (hsend : Sending s t rs) (hs : Sends n o o' rs) : Known t n o' := by
  refine h.of_quiet hsend.heard hs.subscribe hs.subscribed fun r hr hn hk => ?_
  rcases List.mem_append.1 (hsend.unacknowledged.subset hr) with hr | hr
  · exact .inl hr
  · right
    have hmem : r ∈ own n rs := mem_own.2 ⟨hr, hn⟩
    rcases hs.requests with ⟨hnone, -⟩ | ⟨q, hown, -, -, hq⟩
    · rw [hnone] at hmem
      cases hmem
    · rw [hown] at hmem
      obtain rfl := List.mem_singleton.1 hmem
      exact hq hk

theorem granted_acknowledge {u : State} (h : u.heard = s.heard ++ [a]) :
    u.Granted n ↔ s.Granted n ∨ a.Grants n := by
  unfold State.Granted
  rw [h]
  simp [or_and_right, exists_or]

theorem onlyRefused_acknowledge {u : State} (h : u.heard = s.heard ++ [a]) :
    u.OnlyRefused n ↔ ((∃ b ∈ s.heard, b.Refuses n) ∨ a.Refuses n)
      ∧ ¬ (s.Granted n ∨ a.Grants n) := by
  unfold State.OnlyRefused
  rw [granted_acknowledge h, h]
  simp [or_and_right, exists_or]

theorem Ack.not_grants_of_refuses (h : a.Refuses n) : ¬ a.Grants n := by
  rintro ⟨-, -, hg⟩
  rw [h.2.2] at hg
  cases hg

/-- An acknowledgement is a refusal or a grant, gives a subscription up, or is another's. -/
theorem Ack.cases_owner (a : Ack) (n : ℕ) : a.Refuses n ∨ a.Grants n
    ∨ (a.sent.owner = n ∧ a.sent.request.isSubscribe = false) ∨ a.sent.owner ≠ n := by
  unfold Ack.Refuses Ack.Grants
  rcases a.qos.refused with _ | _ <;> rcases a.sent.request.isSubscribe with _ | _ <;> tauto

theorem Known.acknowledge (h : Known s n o) (ho : s.observers[n]? = some o) (ha : a ∈ s.acks)
    (hc : Harmless s (.acknowledge a)) (hheard : t.heard = s.heard ++ [a])
    (hun : t.unacknowledged ⊆ s.unacknowledged) : Known t n (o.acknowledge a.sent.request) := by
  obtain ⟨hrefuse, hother⟩ := hc n o ho
  have hgranted := granted_acknowledge (n := n) hheard
  have honly := onlyRefused_acknowledge (n := n) hheard
  have hsubs : ∀ r ∈ t.unacknowledged, r.owner = n → r.request.isSubscribe = false →
      t.Granted n := fun r hr hn hk => hgranted.2 (.inl (h.unsubscribe r (hun hr) hn hk))
  by_cases hg : t.Granted n
  · exact ⟨fun ht => absurd hg ht.2, fun ht => absurd hg ht, hsubs⟩
  -- never granted it, the observer cannot have been subscribed
  have hs : ¬ s.Granted n := fun hs => hg (hgranted.2 (.inl hs))
  have hfalse := h.subscribed hs
  rcases Ack.cases_owner a n with hr | hr | ⟨hn, hk⟩ | hn
  · specialize hrefuse hr
    have hne : a.sent.request.mid ≠ o._mid := by
      intro heq
      rw [if_pos heq, hfalse] at hrefuse
      cases hrefuse.1
    rw [if_neg hne] at hrefuse
    rw [acknowledge_of_ne hne]
    exact ⟨fun _ => hrefuse.resolve_right hs, fun _ => hfalse, hsubs⟩
  · exact absurd (hgranted.2 (.inr hr)) hg
  · exact absurd (h.unsubscribe a.sent (mem_unacknowledged.2 (.inr ⟨a, ha, rfl⟩)) hn hk) hs
  · have hold : t.OnlyRefused n → s.OnlyRefused n := by
      intro ht
      exact ⟨(honly.1 ht).1.resolve_right fun hr => hn hr.1, hs⟩
    by_cases hmid : a.sent.request.mid = o._mid
    · obtain ⟨hk, hnot⟩ := (hother hn hmid).resolve_left hs
      rw [acknowledge_of_eq hmid]
      exact ⟨fun ht => absurd (hold ht) hnot, fun _ => hk, hsubs⟩
    · rw [acknowledge_of_ne hmid]
      exact ⟨fun ht => h.again (hold ht), fun _ => hfalse, hsubs⟩

theorem onDisconnect_keeps (o : SensorDataObserver) :
    (o._subscribe = true → (o.onDisconnect durable)._subscribe = true)
      ∧ (o.onDisconnect durable)._subscribed = o._subscribed := by
  unfold SensorDataObserver.onDisconnect
  split
  · exact ⟨fun _ => rfl, rfl⟩
  · exact ⟨id, rfl⟩

theorem known_step (h : ∀ n (o : SensorDataObserver), s.observers[n]? = some o → Known s n o)
    (hc : Harmless s e) (hs : Step durable s e t) :
    ∀ n (o : SensorDataObserver), t.observers[n]? = some o → Known t n o := by
  intro n o' ho'
  rcases step_moved hs with ⟨rs, -, -, -, hsend⟩ | _ | _ | ⟨r, rest, qos, hsent⟩ | ⟨a, ha⟩
  · obtain ⟨o, ho, hsends⟩ := hsend.observers n o' ho'
    exact (h n o ho).send hsend hsends
  · exact h n o' ho'
  · simp only [List.getElem?_map] at ho'
    obtain ⟨o, ho, rfl⟩ := Option.map_eq_some_iff.1 ho'
    refine (h n o ho).of_quiet rfl (onDisconnect_keeps o).1 (onDisconnect_keeps o).2 fun r hr => ?_
    simp [State.unacknowledged] at hr
  · refine (h n o' ho').of_quiet rfl id rfl fun q hq _ _ => .inl ?_
    simp only [State.unacknowledged, hsent] at hq ⊢
    simpa [or_comm, or_assoc, or_left_comm] using hq
  · simp only [List.getElem?_map] at ho'
    obtain ⟨o, ho, rfl⟩ := Option.map_eq_some_iff.1 ho'
    refine (h n o ho).acknowledge ho ha hc rfl ?_
    exact (((List.erase_sublist).map _).append_left _).subset

theorem known {s : State} (h : (system durable topics).ReachableBy Harmless s) :
    ∀ n (o : SensorDataObserver), s.observers[n]? = some o → Known s n o := by
  refine h.invariant (P := fun s => ∀ n (o : SensorDataObserver), s.observers[n]? = some o →
    Known s n o) (fun s hs n o ho => ?_) fun s e t _ hp hc hs => known_step hp hc hs
  obtain rfl : s = start topics := hs
  obtain ⟨p, -, rfl⟩ := observer_start ho
  exact ⟨fun ht => by simp [State.OnlyRefused, start] at ht, fun _ => rfl,
    by simp [start, State.unacknowledged]⟩

/-! ## What is promised, and when it holds -/

theorem spares_of_harmless (hc : Harmless s (.acknowledge a))
    (hs : t.observers = s.observers.map fun o => o.acknowledge a.sent.request) : Spares s t a := by
  intro n o o' ho ho' hr
  rw [hs, List.getElem?_map, ho] at ho'
  obtain rfl : o.acknowledge a.sent.request = o' := by simpa using ho'
  have hrefuse := (hc n o ho).1 hr
  by_cases hmid : a.sent.request.mid = o._mid
  · rw [if_pos hmid] at hrefuse
    rw [hrefuse.1, hrefuse.2]
    simp
  · rw [acknowledge_of_ne hmid]
    exact ⟨id, id⟩

/-- An acknowledgement that finds anything else breaks the promise there and then. -/
theorem harmless_of_spares (hs : t.observers = s.observers.map fun o =>
      o.acknowledge a.sent.request) (hheard : t.heard = s.heard ++ [a]) (hspares : Spares s t a)
    (hhonest : ∀ n (o : SensorDataObserver), t.observers[n]? = some o → Honest t n o) :
    Harmless s (.acknowledge a) := by
  intro n o ho
  have ho' : t.observers[n]? = some (o.acknowledge a.sent.request) := by
    rw [hs, List.getElem?_map, ho]
    rfl
  obtain ⟨hagain, hnothing⟩ := honest_iff.1 (hhonest n _ ho')
  rw [onlyRefused_acknowledge hheard] at hagain
  rw [granted_acknowledge hheard] at hnothing
  refine ⟨fun hr => ?_, fun hn hmid => ?_⟩
  · have hng := Ack.not_grants_of_refuses hr
    split
    next hmid =>
      have := hspares n o _ ho ho' hr
      rw [acknowledge_of_eq hmid, hr.2.1] at this
      simpa using this
    next hmid =>
      rw [acknowledge_of_ne hmid] at hagain
      by_contra hnot
      push Not at hnot
      exact hnot.1 (hagain ⟨.inr hr, fun hg => hg.elim hnot.2 hng⟩)
  · have hng : ¬ a.Grants n := fun hg => hn hg.1
    rw [acknowledge_of_eq hmid] at hagain hnothing
    by_cases hg : s.Granted n
    · exact .inl hg
    · refine .inr ⟨hnothing fun h => h.elim hg hng, fun honly => ?_⟩
      cases hagain ⟨.inl honly.1, fun h => h.elim hg hng⟩

/-- While every acknowledgement finds the observers so that it does no harm, no refusal is taken
for a grant; and the first one that does not find them so is. -/
theorem refused_not_granted (durable : Bool) (topics : List (String × Sensor)) {s : State}
    (h : (system durable topics).ReachableBy Harmless s) :
    (∀ n (o : SensorDataObserver), s.observers[n]? = some o → Honest s n o)
      ∧ ∀ a t, Step durable s (.acknowledge a) t → (Harmless s (.acknowledge a) ↔
        Spares s t a ∧ ∀ n (o : SensorDataObserver), t.observers[n]? = some o → Honest t n o) := by
  refine ⟨fun n o ho => (known h n o ho).honest, fun a t hs => ?_⟩
  obtain ⟨hobservers, hheard⟩ := step_acknowledge hs
  refine ⟨fun hc => ⟨spares_of_harmless hc hobservers, fun n o ho => ?_⟩, fun ⟨hsp, hhon⟩ =>
    harmless_of_spares hobservers hheard hsp hhon⟩
  exact (known_step (known h) hc hs n o ho).honest

/-- An observer that waited for the connection is refused, and counts as subscribed. -/
theorem refusal_subscribes : ¬ ∀ (durable : Bool) (topics : List (String × Sensor)) (s t : State)
    (a : Ack), (system durable topics).Reachable s → Step durable s (.acknowledge a) t →
      Spares s t a ∧ ∀ n (o : SensorDataObserver), t.observers[n]? = some o → Honest t n o := by
  intro h
  have h0 : (system false [("gas", .gas)]).Reachable (start [("gas", .gas)]) := .init rfl
  have h1 := h0.next (e := Event.subscribe 0 0 0)
    (.subscribe rfl rfl ⟨by decide, by decide, by decide⟩)
  have h2 := h1.next (e := Event.connect (fun _ => 0) fun _ => 1)
    (.connect rfl rfl ⟨by decide, by decide, by decide⟩)
  have h3 := h2.next (e := Event.serve [SubackFailure]) (.serve rfl rfl)
  have hspares := (h false _ _ _ ⟨⟨0, .subscribe 1 "gas"⟩, [SubackFailure]⟩ h3
    (.acknowledge rfl (by decide))).1
  exact absurd ((hspares 0 _ _ rfl rfl ⟨rfl, rfl, by decide⟩).1 rfl) (by decide)

/-- While it waits for the answer to a second request, a refusal of the first leaves it its wish. -/
theorem refused_not_granted_pending : ∃ s : State, ∃ o : SensorDataObserver,
    s.observers[0]? = some o ∧ s.OnlyRefused 0 ∧ Honest s 0 o := by
  have h0 : (system false [("gas", .gas)]).ReachableBy Harmless (start [("gas", .gas)]) :=
    .init rfl
  have h1 := h0.step (e := Event.subscribe 0 0 0) trivial
    (.subscribe rfl rfl ⟨by decide, by decide, by decide⟩)
  have h2 := h1.step (e := Event.connect (fun _ => 0) fun _ => 1) trivial
    (.connect rfl rfl ⟨by decide, by decide, by decide⟩)
  have h3 := h2.step (e := Event.subscribe 0 0 2) trivial
    (.subscribe rfl rfl ⟨by decide, by decide, by decide⟩)
  have h4 := h3.step (e := Event.serve [SubackFailure]) trivial (.serve rfl rfl)
  have h5 := h4.step (e := Event.acknowledge ⟨⟨0, .subscribe 1 "gas"⟩, [SubackFailure]⟩)
    (fun n o ho => ?_) (.acknowledge rfl (by decide))
  · exact ⟨_, _, rfl, ⟨⟨_, List.mem_singleton_self _, rfl, rfl, by decide⟩, by
      rintro ⟨b, hb, -, -, hg⟩
      obtain rfl := List.mem_singleton.1 hb
      exact absurd hg (by decide)⟩, (refused_not_granted false _ h5).1 0 _ rfl⟩
  · rcases n with _ | n
    · obtain rfl := Option.some.inj ho
      exact ⟨fun _ => .inl rfl, fun hn => absurd rfl hn⟩
    · cases ho

end Sharing

end SensorityCollector
