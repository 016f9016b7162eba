import SensorityCollector.Proofs.Resubscribe

/-!
# Whether `unsubscribe()` is the last word

`unsubscribe()` acts on `_subscribed` alone. A `_subscribe` that waits for a connection, a
SUBSCRIBE under way, or a connection lost before the UNSUBACK brings the subscription back.
-/

namespace SensorityCollector

open Transition

namespace Subscription

variable {durable : Bool} {topic : String} {accessor : Sensor} {s t : State} {e : Event}

/-- After `unsubscribe()` no SUBSCRIBE is sent, and the broker does not have the subscription once
the client is connected and has no request under way. -/
def Final (s : State) : Prop :=
  s.lastCall = some .unsubscribe → (∀ r ∈ s.since, r.isSubscribe = false)
    ∧ (s.link = .connected → s.sent = [] → s.held = false)

/-- If the broker has the subscription or is being asked for it, the last request under way is an
UNSUBSCRIBE. -/
def Released (s : State) : Prop := s.Covered → ∃ r ∈ s.sent.getLast?, r.isSubscribe = false

/-- `unsubscribe()` throws, or has an UNSUBSCRIBE to send or nothing to undo, and is not forestalled
by a `_subscribe` that `onConnect` has yet to see; and when the connection is lost after it,
nothing is on record. -/
def OffRecord (durable : Bool) (s : State) : Event → Prop
  | .unsubscribe rc _ => (s.observer._subscribed = true ∧ rc ≠ MOSQ_ERR_SUCCESS)
      ∨ ((s.observer._subscribed = true ∨ Released s)
        ∧ (s.link ≠ .connected → s.observer._subscribe = false))
  | .disconnect => s.lastCall = some .unsubscribe → ¬ Recorded durable s
  | _ => True

instance (s : State) : Decidable (Released s) :=
  inferInstanceAs (Decidable (s.Covered → ∃ r ∈ s.sent.getLast?, r.isSubscribe = false))

instance (durable : Bool) (s : State) : ∀ e, Decidable (OffRecord durable s e)
  | .unsubscribe _ _ => inferInstanceAs (Decidable (_ ∧ _ ∨ (_ ∨ Released s) ∧ (_ → _)))
  | .disconnect => inferInstanceAs (Decidable (_ → ¬ Recorded durable s))
  | .subscribe _ _ | .connect | .onConnect _ _ | .onDisconnect | .serve _ | .acknowledge _ =>
    .isTrue trivial

/-- Nothing is left that could bring the subscription back. -/
structure Quiet (durable : Bool) (s : State) : Prop where
  since : ∀ r ∈ s.since, r.isSubscribe = false
  released : Released s
  flag : s.link ≠ .connected → s.observer._subscribe = false
  off : s.link = .disconnecting → (s.observer._subscribed && !durable) = false

theorem Quiet.final (h : s.lastCall = some .unsubscribe → Quiet durable s) : Final s := by
  refine fun hl => ⟨(h hl).since, fun _ hs => ?_⟩
  by_contra hh
  obtain ⟨r, hr, -⟩ := (h hl).released (.inl (by simpa using hh))
  simp [hs] at hr

theorem Released.serve {r : Request} {rest : List Request} {granted : Bool} (h : Released s)
    (hs : s.sent = r :: rest) :
    Released { s with sent := rest, acks := s.acks ++ [r], held := hold granted s.held r } := by
  intro hc
  have hcov : s.Covered := by
    rcases hc with hc | ⟨r', hr', hc⟩
    · have hsub : r.isSubscribe = true := by
        by_contra hr
        simp [hold, hr] at hc
      exact .inr ⟨r, by simp [hs], hsub⟩
    · exact .inr ⟨r', by simp [hs, hr'], hc⟩
  obtain ⟨q, hq, hqs⟩ := h hcov
  rw [hs] at hq
  cases rest with
  | nil =>
    obtain rfl : r = q := by simpa using hq
    rcases hc with hc | ⟨_, hr, _⟩
    · simp [hold, hqs] at hc
    · simp at hr
  | cons r' rest => exact ⟨q, by simpa using hq, hqs⟩

theorem unsubscribe_ok {o : SensorDataObserver} {x : SensorDataObserver × Option Request} {rc : ℤ}
    {mid : ℕ} (h : o.unsubscribe (MqttClient.unsubscribe rc mid) = .ok x) :
    (o._subscribed = true ∧ rc = MOSQ_ERR_SUCCESS
        ∧ x = ({ o with _mid := mid }, some (.unsubscribe mid o._topic)))
      ∨ (o._subscribed = false ∧ x = (o, none)) := by
  simp only [SensorDataObserver.unsubscribe, MqttClient.unsubscribe] at h
  split_ifs at h with hs hr
  · refine .inl ⟨hs, not_not.1 hr, ?_⟩
    exact (Except.ok.inj h).symm
  · exact .inr ⟨by simpa using hs, (Except.ok.inj h).symm⟩

theorem Quiet.step (h : s.lastCall = some .unsubscribe → Quiet durable s)
    (hc : OffRecord durable s e) (hs : Step durable s e t) :
    t.lastCall = some .unsubscribe → Quiet durable t := by
  intro hl
  cases hs with
  | @subscribe rc mid _ =>
    exfalso
    cases hcall : s.observer.subscribe s.link.up (MqttClient.subscribe rc mid) <;>
      simp [hcall, State.handle, State.called] at hl
  | @unsubscribe rc mid x ha hx =>
    rcases unsubscribe_ok hx with ⟨hsub, hrc, rfl⟩ | ⟨hsub, rfl⟩
    · rcases hc with ⟨-, hne⟩ | ⟨-, hflag⟩
      · exact absurd hrc hne
      · refine ⟨by simp [State.handle, State.called, Request.isSubscribe], fun _ => ?_, hflag,
          fun hk => ?_⟩
        · exact ⟨_, by simp [State.handle]; rfl, rfl⟩
        · have hup := (ha hrc).1
          simp only [State.handle, State.called] at hk
          simp [hk, Link.up] at hup
    · rcases hc with ⟨hsub', -⟩ | ⟨hrel, hflag⟩
      · simp [hsub] at hsub'
      · refine ⟨by simp [State.handle, State.called], ?_, hflag, fun _ => by
          simp [State.handle, State.called, hsub]⟩
        have hrel := hrel.resolve_left (by simp [hsub])
        simpa [Released, State.Covered, State.handle, State.called] using hrel
  | unsubscribeThrows _ _ => exact h hl
  | connect hk =>
    obtain ⟨hsince, hrel, hflag, -⟩ := h hl
    exact ⟨hsince, hrel, fun _ => hflag (by simp [hk]), by simp⟩
  | onConnect hk _ =>
    have hq : Quiet durable s := by
      refine h ?_
      revert hl
      cases s.observer.onConnect s.link.up _ <;> exact id
    rw [SensorDataObserver.onConnect_idle (hq.flag (by simp [hk]))]
    refine ⟨by simpa [State.handle] using hq.since, ?_, fun hne => absurd rfl hne, by
      simp [State.handle]⟩
    simpa [Released, State.Covered, State.handle] using hq.released
  | disconnect hk =>
    have hq := h hl
    have hoff := hc hl
    simp only [Recorded, not_or] at hoff
    refine ⟨hq.since, fun hcov => ?_, fun _ => by simpa using hoff.1, fun _ => ?_⟩
    · exfalso
      cases durable <;> simp_all [State.Covered]
    · cases durable <;> simp_all
  | onDisconnect hk =>
    obtain ⟨hsince, hrel, hflag, hoff⟩ := h hl
    have hid : s.observer.onDisconnect durable = s.observer := by
      simp only [SensorDataObserver.onDisconnect, hoff hk, Bool.false_eq_true, if_false]
    rw [hid]
    exact ⟨hsince, hrel, fun _ => hflag (by simp [hk]), by simp⟩
  | @serve r rest granted hk hsent =>
    obtain ⟨hsince, hrel, hflag, hoff⟩ := h hl
    exact ⟨hsince, hrel.serve hsent, hflag, hoff⟩
  | acknowledge hk _ =>
    obtain ⟨hsince, hrel, -, -⟩ := h hl
    exact ⟨hsince, hrel, fun hne => absurd hk hne, fun hd => by simp [hk] at hd⟩

theorem unsubscribe_final
    (h : (system durable topic accessor).ReachableBy (OffRecord durable) s) : Final s := by
  have hq : s.lastCall = some .unsubscribe → Quiet durable s := by
    refine h.invariant ?_ fun s e t _ hp hc hs => Quiet.step hp hc hs
    rintro _ rfl
    simp [start]
  exact Quiet.final hq

/-- With the last SUBSCRIBE under way, or the subscription with the broker, the broker has it once
it has served what it is sent. -/
theorem serve_all (hl : s.link.up = true) (hr : ¬ Released s) :
    ∃ es u, (system durable topic accessor).Run (fun _ _ => True) s es u
      ∧ u.lastCall = s.lastCall ∧ u.link = s.link ∧ u.sent = [] ∧ u.held = true := by
  induction hsent : s.sent generalizing s with
  | nil =>
    obtain ⟨hcov, -⟩ := Classical.not_imp.1 hr
    refine ⟨[], s, .nil s, rfl, rfl, hsent, ?_⟩
    simpa [State.Covered, hsent] using hcov
  | cons r rest ih =>
    set v : State := { s with sent := rest, acks := s.acks ++ [r], held := hold true s.held r }
    have hst : Step durable s (.serve true) v := .serve hl hsent
    have hlast : ∀ q ∈ (r :: rest).getLast?, q.isSubscribe = true := by
      intro q hq
      by_contra hne
      exact (Classical.not_imp.1 hr).2 ⟨q, by rwa [hsent], by simpa using hne⟩
    have hcov : v.Covered := by
      cases rest with
      | nil => exact .inl (hold_granted _ (hlast r (by simp)))
      | cons r' rest =>
        have hmem : (r' :: rest).getLast (by simp) ∈ r' :: rest := List.getLast_mem _
        exact .inr ⟨_, hmem, hlast _ (by simp [List.getLast?_eq_some_getLast])⟩
    have hrel : ¬ Released v := by
      intro hrel
      obtain ⟨q, hq, hqs⟩ := hrel hcov
      refine absurd (hlast q ?_) (by simp [hqs])
      cases rest with
      | nil => simp [v] at hq
      | cons r' rest => simpa [v] using hq
    obtain ⟨es, u, hr', h1, h2, h3, h4⟩ := ih (s := v) hl hrel rfl
    exact ⟨[.serve true] ++ es, u, (System.Run.single trivial hst).append hr', h1, h2, h3, h4⟩

/-- The user does nothing more, and a SUBSCRIBE is sent or the broker ends up with the
subscription. -/
def Undone (durable : Bool) (topic : String) (accessor : Sensor) (s : State) : Prop :=
  ∃ es u, (system durable topic accessor).Run (fun _ _ => True) s es u ∧ u.lastCall = s.lastCall
    ∧ ((∃ r ∈ u.since, r.isSubscribe = true) ∨ (u.link = .connected ∧ u.sent = [] ∧ u.held = true))

theorem Undone.of_step (hs : Step durable s e t) (hl : t.lastCall = s.lastCall)
    (h : Undone durable topic accessor t) : Undone durable topic accessor s := by
  obtain ⟨es, u, hr, hu, hx⟩ := h
  have h1 : (system durable topic accessor).Run (fun _ _ => True) s [e] t := .single trivial hs
  exact ⟨_, u, h1.append hr, hu.trans hl, hx⟩

theorem exists_answer (hl : s.link.up = true) : ∃ mid, s.Answers MOSQ_ERR_SUCCESS mid := by
  refine ⟨((s.sent ++ s.acks).map Request.mid).sum + 1, fun _ => ⟨hl, Nat.succ_ne_zero _, ?_⟩⟩
  intro r hr
  have := List.single_le_sum (l := (s.sent ++ s.acks).map Request.mid) (by simp) r.mid
    (List.mem_map_of_mem hr)
  omega

theorem undone_of_flag (hl : s.link ≠ .connected) (hs : s.observer._subscribe = true) :
    Undone durable topic accessor s := by
  have connecting : ∀ v : State, v.link = .connecting → v.observer._subscribe = true →
      Undone durable topic accessor v := by
    intro v hv hsub
    obtain ⟨mid, hmid⟩ := exists_answer (s := v) (by simp [hv, Link.up])
    have hst : Step durable v (.onConnect MOSQ_ERR_SUCCESS mid) _ := .onConnect hv hmid
    rw [SensorDataObserver.onConnect_pending hsub, hv, Link.up,
      SensorDataObserver.subscribe_up] at hst
    exact ⟨_, _, .single trivial hst, rfl,
      .inl ⟨.subscribe mid v.observer._topic, by simp [State.handle], rfl⟩⟩
  have disconnected : ∀ v : State, v.link = .disconnected → v.observer._subscribe = true →
      Undone durable topic accessor v :=
    fun v hv hsub => .of_step (.connect hv) rfl (connecting _ rfl hsub)
  cases hk : s.link with
  | connected => exact absurd hk hl
  | connecting => exact connecting s hk hs
  | disconnected => exact disconnected s hk hs
  | disconnecting =>
    refine .of_step (.onDisconnect hk) rfl (disconnected _ rfl ?_)
    simp only [SensorDataObserver.onDisconnect]
    split_ifs <;> simp [hs]

theorem undone_of_not_released (hr : ¬ Released s) : Undone durable topic accessor s := by
  have connected : ∀ v : State, v.link = .connected → ¬ Released v →
      Undone durable topic accessor v := by
    intro v hv hr
    obtain ⟨es, u, h, h1, h2, h3, h4⟩ := serve_all (by simp [hv, Link.up]) hr
    exact ⟨es, u, h, h1, .inr ⟨h2.trans hv, h3, h4⟩⟩
  have connecting : ∀ v : State, v.link = .connecting → ¬ Released v →
      Undone durable topic accessor v := by
    intro v hv hr
    cases hsub : v.observer._subscribe with
    | true => exact undone_of_flag (by simp [hv]) hsub
    | false =>
      obtain ⟨mid, hmid⟩ := exists_answer (s := v) (by simp [hv, Link.up])
      have hst : Step durable v (.onConnect MOSQ_ERR_SUCCESS mid) _ := .onConnect hv hmid
      simp only [SensorDataObserver.onConnect_idle hsub, State.handle, Option.toList,
        List.append_nil] at hst
      exact .of_step hst rfl (connected _ rfl hr)
  have disconnected : ∀ v : State, v.link = .disconnected → ¬ Released v →
      Undone durable topic accessor v :=
    fun v hv hr => .of_step (.connect hv) rfl (connecting _ rfl hr)
  cases hk : s.link with
  | connected => exact connected s hk hr
  | connecting => exact connecting s hk hr
  | disconnected => exact disconnected s hk hr
  | disconnecting => exact .of_step (.onDisconnect hk) rfl (disconnected _ rfl hr)

/-- A step that does not meet the condition undoes the `unsubscribe()` it makes or follows. -/
theorem unsubscribe_undone (hs : Step durable s e t) (hn : ¬ OffRecord durable s e) :
    t.lastCall = some .unsubscribe ∧ Undone durable topic accessor t := by
  cases hs with
  | @unsubscribe rc mid x ha hx =>
    refine ⟨rfl, ?_⟩
    obtain ⟨-, hn⟩ := not_or.1 hn
    have hobs : x.1._subscribe = s.observer._subscribe := by
      rcases unsubscribe_ok hx with ⟨-, -, rfl⟩ | ⟨-, rfl⟩ <;> rfl
    by_cases hflag : s.link ≠ .connected → s.observer._subscribe = false
    · obtain ⟨hsub, hrel⟩ := not_or.1 fun h => hn ⟨h, hflag⟩
      rcases unsubscribe_ok hx with ⟨hsub', -⟩ | ⟨-, rfl⟩
      · exact absurd hsub' hsub
      · refine undone_of_not_released fun h => hrel ?_
        simpa [Released, State.Covered, State.handle, State.called] using h
    · obtain ⟨hl, hsub⟩ := Classical.not_imp.1 hflag
      exact undone_of_flag hl (hobs.trans (by simpa using hsub))
  | @unsubscribeThrows rc mid _ ha hx =>
    refine absurd (.inl ?_) hn
    simp only [SensorDataObserver.unsubscribe, MqttClient.unsubscribe] at hx
    split_ifs at hx with hsub hrc
    exact ⟨hsub, hrc⟩
  | disconnect hl =>
    obtain ⟨hlast, hrec⟩ := Classical.not_imp.1 hn
    refine ⟨hlast, ?_⟩
    rcases not_not.1 hrec with hsub | hrec
    · exact undone_of_flag (by simp) hsub
    · cases durable with
      | true =>
        refine undone_of_not_released fun h => ?_
        obtain ⟨r, hr, -⟩ := h (.inl (by simpa using hrec))
        simp at hr
      | false =>
        refine .of_step (.onDisconnect rfl) rfl (undone_of_flag (by simp) ?_)
        simp only [Bool.false_eq_true, if_false] at hrec
        simp [SensorDataObserver.onDisconnect, hrec]
  | _ => exact absurd trivial hn

/-- `subscribe()` and `unsubscribe()` before the client is connected: the `unsubscribe()` leaves
`_subscribe` to `onConnect`. -/
theorem unsubscribe_forgotten : ∃ es s,
    (system false "sensor" .temperature).Run (fun _ _ => True) (start "sensor" .temperature) es s
      ∧ s.lastCall = some .unsubscribe ∧ s.link = .connected ∧ s.sent = [] ∧ s.acks = []
      ∧ s.held = true ∧ s.since = [.subscribe 1 "sensor"] ∧ ¬ Final s := by
  have hr : (system false "sensor" .temperature).Run (fun _ _ => True) (start "sensor" .temperature)
      [.subscribe 4 0, .unsubscribe 4 0, .connect, .onConnect 0 1, .serve true,
        .acknowledge (.subscribe 1 "sensor")]
      { observer := { (SensorDataObserver.create "sensor" .temperature).setUp with
          _subscribed := true },
        link := .connected, sent := [], acks := [], held := true, lastCall := some .unsubscribe,
        since := [.subscribe 1 "sensor"] } := run_of_fire rfl
  refine ⟨_, _, hr, rfl, rfl, rfl, rfl, rfl, rfl, fun h => ?_⟩
  have := (h rfl).2 rfl rfl
  simp at this

/-- An acknowledged subscription, given up and acknowledged again before the connection is lost. -/
theorem unsubscribe_final_acknowledged : ∃ s : State, s.lastCall = some .unsubscribe
    ∧ s.link = .connected ∧ s.since = [.unsubscribe 2 "sensor"] ∧ Final s := by
  have hr : (system false "sensor" .temperature).Run (OffRecord false) (start "sensor" .temperature)
      [.connect, .onConnect 0 1, .subscribe 0 1, .serve true, .acknowledge (.subscribe 1 "sensor"),
        .unsubscribe 0 2, .serve true, .acknowledge (.unsubscribe 2 "sensor"), .disconnect,
        .onDisconnect, .connect, .onConnect 0 3]
      { observer := (SensorDataObserver.create "sensor" .temperature).setUp,
        link := .connected, sent := [], acks := [], held := false, lastCall := some .unsubscribe,
        since := [.unsubscribe 2 "sensor"] } := run_of_fire rfl
  exact ⟨_, rfl, rfl, rfl, unsubscribe_final (hr.reachableBy (.init rfl))⟩

end Subscription

end SensorityCollector
