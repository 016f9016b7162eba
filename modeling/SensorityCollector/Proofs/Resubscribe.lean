import SensorityCollector.Subscription

/-!
# Whether a subscription outlives its connection

The wish to be subscribed is `_subscribe` before the client is connected and `_subscribed` after
the SUBACK. Between them, when `subscribe()` was called on a connected client, nothing but the
request holds it: a connection lost there takes the wish along.
-/

namespace SensorityCollector

open Transition

namespace Subscription

variable {durable : Bool} {topic : String} {accessor : Sensor} {s t : State} {e : Event}

def State.Covered (s : State) : Prop := s.held = true ∨ ∃ r ∈ s.sent, r.isSubscribe = true

instance (s : State) : Decidable s.Covered :=
  inferInstanceAs (Decidable (_ ∨ ∃ r ∈ s.sent, r.isSubscribe = true))

/-- Nobody unsubscribes, `subscribe` on a connected client does not throw, and the broker grants
what it is asked for. -/
def Granting (s : State) : Event → Prop
  | .subscribe rc _ => s.link.up = true → rc = MOSQ_ERR_SUCCESS
  | .onConnect rc _ => rc = MOSQ_ERR_SUCCESS
  | .unsubscribe _ _ => False
  | .serve granted => granted = true
  | _ => True

instance (s : State) : ∀ e, Decidable (Granting s e)
  | .subscribe _ _ => inferInstanceAs (Decidable (_ → _))
  | .unsubscribe _ _ => .isFalse id
  | .onConnect _ _ | .serve _ => inferInstanceAs (Decidable (_ = _))
  | .connect | .disconnect | .onDisconnect | .acknowledge _ => .isTrue trivial

/-- What outlives the connection: `_subscribe`, `_subscribed` for `onDisconnect` to see, and what
the broker keeps of a durable client. -/
def Recorded (durable : Bool) (s : State) : Prop :=
  s.observer._subscribe = true
    ∨ if durable = true then s.held = true else s.observer._subscribed = true

instance (durable : Bool) (s : State) : Decidable (Recorded durable s) :=
  inferInstanceAs (Decidable (_ ∨
    if durable = true then s.held = true else s.observer._subscribed = true))

/-- When the connection is lost, the wish to be subscribed is on record. -/
def OnRecord (durable : Bool) (s : State) : Event → Prop
  | .disconnect => s.lastCall = some .subscribe → Recorded durable s
  | _ => True

instance (durable : Bool) (s : State) : ∀ e, Decidable (OnRecord durable s e)
  | .disconnect => inferInstanceAs (Decidable (_ → Recorded durable s))
  | .subscribe _ _ | .unsubscribe _ _ | .connect | .onConnect _ _ | .onDisconnect | .serve _
  | .acknowledge _ => .isTrue trivial

/-- Where the wish is, by what the link is at. -/
def Wish (durable : Bool) (s : State) : Prop :=
  match s.link with
  | .disconnected => s.observer._subscribe = true ∨ s.held = true
  | .connecting => s.observer._subscribe = true ∨ s.Covered
  | .connected => s.Covered
  | .disconnecting => Recorded durable s

/-- What a run that nobody unsubscribes in keeps. -/
structure Remembered (durable : Bool) (s : State) : Prop where
  requests : ∀ r ∈ s.sent, r.isSubscribe = true
  wish : s.lastCall = some .subscribe → Wish durable s

theorem hold_granted (held : Bool) {r : Request} (hr : r.isSubscribe = true) :
    hold true held r = true := by
  simp [hold, hr]

theorem covered_of_subscribe (o : SensorDataObserver) (mid : ℕ) :
    (s.handle (.ok (o, some (.subscribe mid topic)))).Covered :=
  .inr ⟨.subscribe mid topic, List.mem_append_right _ (by simp), rfl⟩

theorem requests_subscribe (o : SensorDataObserver) (mid : ℕ)
    (h : ∀ r ∈ s.sent, r.isSubscribe = true) :
    ∀ r ∈ (s.handle (.ok (o, some (.subscribe mid topic)))).sent, r.isSubscribe = true := by
  intro r hr
  rcases List.mem_append.1 hr with hr | hr
  · exact h r hr
  · obtain rfl : r = .subscribe mid topic := by simpa using hr
    rfl

theorem Link.up_cases {l : Link} (h : l.up = true) : l = .connecting ∨ l = .connected := by
  cases l <;> simp_all [Link.up]

theorem Link.down_cases {l : Link} (h : l.up = false) : l = .disconnected ∨ l = .disconnecting := by
  cases l <;> simp_all [Link.up]

/-- While the link is up, the broker's having or being asked for the subscription will do. -/
theorem wish_of_covered (hl : s.link.up = true) (hc : s.Covered) : Wish durable s := by
  rcases Link.up_cases hl with hk | hk <;> simp only [Wish, hk]
  · exact .inr hc
  · exact hc

theorem wish_of_flag (hl : s.link.up = false) (hs : s.observer._subscribe = true) :
    Wish durable s := by
  rcases Link.down_cases hl with hk | hk <;> simp only [Wish, hk] <;> exact .inl hs

theorem Remembered.step (h : Remembered durable s) (hc : Granting s e ∧ OnRecord durable s e)
    (hs : Step durable s e t) : Remembered durable t := by
  obtain ⟨hg, hr⟩ := hc
  obtain ⟨hreq, hw⟩ := h
  cases hs with
  | @subscribe rc mid _ =>
    cases hl : s.link.up with
    | false =>
      rw [SensorDataObserver.subscribe_down]
      exact ⟨by simpa [State.handle, State.called] using hreq, fun _ => wish_of_flag hl rfl⟩
    | true =>
      obtain rfl := hg hl
      rw [SensorDataObserver.subscribe_up]
      exact ⟨requests_subscribe _ _ hreq, fun _ => wish_of_covered hl (covered_of_subscribe _ _)⟩
  | unsubscribe _ _ => exact hg.elim
  | unsubscribeThrows _ _ => exact hg.elim
  | connect hl =>
    refine ⟨hreq, fun hlast => ?_⟩
    have := hw hlast
    simp only [Wish, hl] at this
    exact this.imp_right .inl
  | @onConnect rc mid hl _ =>
    obtain rfl : rc = MOSQ_ERR_SUCCESS := hg
    cases hsub : s.observer._subscribe with
    | false =>
      rw [SensorDataObserver.onConnect_idle hsub]
      refine ⟨by simpa [State.handle] using hreq, fun hlast => ?_⟩
      have := hw hlast
      simpa [Wish, hl, hsub, State.handle, State.Covered] using this
    | true =>
      have hid : s.observer.onConnect s.link.up (MqttClient.subscribe MOSQ_ERR_SUCCESS mid)
          = .ok ({ s.observer with _mid := mid }, some (.subscribe mid s.observer._topic)) := by
        rw [SensorDataObserver.onConnect_pending hsub, hl]
        exact SensorDataObserver.subscribe_up ..
      rw [hid]
      exact ⟨requests_subscribe _ _ hreq, fun _ => wish_of_covered rfl (covered_of_subscribe _ _)⟩
  | disconnect hl =>
    refine ⟨by simp, fun hlast => ?_⟩
    rcases hr hlast with hr | hr
    · exact .inl hr
    · refine .inr ?_
      cases durable <;> simpa using hr
  | onDisconnect hl =>
    refine ⟨hreq, fun hlast => ?_⟩
    have hw := hw hlast
    simp only [Wish, hl] at hw
    simp only [Wish, SensorDataObserver.onDisconnect]
    rcases hw with hw | hw
    · refine .inl ?_
      split_ifs
      · rfl
      · exact hw
    · cases durable with
      | false => simp_all
      | true => exact .inr hw
  | @serve r rest granted hl hsent =>
    obtain rfl : granted = true := hg
    have hsub : r.isSubscribe = true := hreq r (by simp [hsent])
    refine ⟨fun r' hr' => hreq r' (by simp [hsent, hr']), fun _ => ?_⟩
    exact wish_of_covered hl (.inl (hold_granted _ hsub))
  | acknowledge hl _ =>
    refine ⟨hreq, fun hlast => ?_⟩
    have := hw hlast
    simp only [Wish, hl] at this ⊢
    exact this

theorem remembered (h : (system durable topic accessor).ReachableBy
    (fun s e => Granting s e ∧ OnRecord durable s e) s) : Remembered durable s := by
  refine h.invariant ?_ fun s e t _ hp hc hs => hp.step hc hs
  rintro _ rfl
  exact ⟨by simp [start], by simp [start]⟩

/-- No subscription is lost while every disconnect finds it on record. -/
theorem subscription_kept (h : (system durable topic accessor).ReachableBy
      (fun s e => Granting s e ∧ OnRecord durable s e) s)
    (hlast : s.lastCall = some .subscribe) (hl : s.link = .connected) : s.Covered := by
  have := (remembered h).wish hlast
  simpa only [Wish, hl] using this

theorem reconnect (hl : s.link = .disconnecting) (hs : s.sent = []) (ha : s.acks = [])
    (hsub : s.observer._subscribe = false) (hd : (s.observer._subscribed && !durable) = false) :
    (system durable topic accessor).Run Granting s
      [.onDisconnect, .connect, .onConnect MOSQ_ERR_SUCCESS 1] { s with link := .connected } := by
  have hoff : s.observer.onDisconnect durable = s.observer := by
    simp [SensorDataObserver.onDisconnect, hd]
  have h1 : Step durable s .onDisconnect
      { s with link := .disconnected, observer := s.observer.onDisconnect durable } :=
    .onDisconnect hl
  have h2 : Step durable { s with link := .disconnected } .connect { s with link := .connecting } :=
    .connect rfl
  have h3 : Step durable { s with link := .connecting } (.onConnect MOSQ_ERR_SUCCESS 1)
      ({ s with link := .connected }.handle
        (s.observer.onConnect true (MqttClient.subscribe MOSQ_ERR_SUCCESS 1))) :=
    .onConnect rfl fun _ => ⟨rfl, by decide, by simp [hs, ha]⟩
  rw [hoff] at h1
  simp only [SensorDataObserver.onConnect_idle hsub, State.handle, Option.toList,
    List.append_nil] at h3
  exact .snoc (.snoc (.single trivial h1) trivial h2) rfl h3

/-- A disconnect that does not find it on record loses it. -/
theorem subscription_lost (hs : Step durable s .disconnect t)
    (hr : ¬ OnRecord durable s .disconnect) :
    ∃ es u, (system durable topic accessor).Run Granting t es u
      ∧ u.lastCall = some .subscribe ∧ u.link = .connected ∧ ¬ u.Covered := by
  obtain ⟨hlast, hsub, hrec⟩ : s.lastCall = some .subscribe ∧ s.observer._subscribe = false
      ∧ ¬ if durable = true then s.held = true else s.observer._subscribed = true := by
    simpa [OnRecord, Recorded] using hr
  cases hs with
  | disconnect hl =>
    refine ⟨_, _, reconnect rfl rfl rfl hsub ?_, hlast, rfl, ?_⟩
    · cases durable <;> simp_all
    · cases durable <;> simp_all [State.Covered]

/-- `subscribe()` on a connected client, whose connection is lost before the broker has served the
request: the client comes back, and nothing asks for the subscription. -/
theorem subscription_forgotten : ∃ es s,
    (system false "sensor" .temperature).Run Granting (start "sensor" .temperature) es s
      ∧ s.lastCall = some .subscribe ∧ s.link = .connected ∧ ¬ s.Covered := by
  have hr : (system false "sensor" .temperature).Run Granting (start "sensor" .temperature)
      [.connect, .onConnect 0 1, .subscribe 0 1, .disconnect, .onDisconnect, .connect,
        .onConnect 0 1]
      { observer := { (SensorDataObserver.create "sensor" .temperature).setUp with _mid := 1 },
        link := .connected, sent := [], acks := [], held := false, lastCall := some .subscribe,
        since := [.subscribe 1 "sensor"] } := run_of_fire rfl
  exact ⟨_, _, hr, rfl, rfl, by decide⟩

/-- The same with the SUBACK delivered before the connection is lost. -/
theorem subscription_kept_acknowledged : ∃ s : State, s.link = .connected ∧ s.held = false
    ∧ s.Covered := by
  have hr : (system false "sensor" .temperature).Run
      (fun s e => Granting s e ∧ OnRecord false s e) (start "sensor" .temperature)
      [.connect, .onConnect 0 1, .subscribe 0 1, .serve true, .acknowledge (.subscribe 1 "sensor"),
        .disconnect, .onDisconnect, .connect, .onConnect 0 2]
      { observer := { (SensorDataObserver.create "sensor" .temperature).setUp with
          _mid := 2, _subscribe := true, _subscribed := true },
        link := .connected, sent := [.subscribe 2 "sensor"], acks := [], held := false,
        lastCall := some .subscribe, since := [.subscribe 1 "sensor", .subscribe 2 "sensor"] } :=
    run_of_fire rfl
  exact ⟨_, rfl, rfl, subscription_kept (hr.reachableBy (.init rfl)) rfl rfl⟩

end Subscription

end SensorityCollector
