import SensorityCollector.Connection
import SensorityCollector.Sharing

/-!
# Two flags for a thread and a connection

`_connected` is whether the broker has accepted the connection, and not whether the library is to
establish one; `_active` is whether a thread has ever been started, and not whether one runs. So a
`disconnect()` during an attempt does nothing, a `connect()` after a thread has ended starts none,
and the destructor stops the thread only over a connection.
-/

namespace SensorityCollector

open Transition

/-- The callback is the one whose emission the observers see. -/
theorem MqttClient.connackReceived_connected (c : MqttClient) (status : ℤ)
    (call : ℕ → Except RuntimeException ℕ) (observers : List SensorDataObserver) :
    (c.connackReceived status)._connected = (MqttClient.onConnect status call observers).1 := by
  unfold connackReceived onConnect emits
  rcases convertStatus status <;> rfl

namespace Connection

variable {s t : State} {e : Event}

/-- What the flags have to do with the context, in every run. -/
structure Linked (s : State) : Prop where
  up : s.client._context.up = s.client._connected
  closing : s.client._context.closing = true →
    s.client._context.up = true ∧ s.client._context.wanted = false
  idle : s.client._active = false → s.client._context.thread = .none

theorem Linked.not_closing (h : Linked s) (hd : s.client._context.up = false) :
    s.client._context.closing = false := by
  by_contra hcl
  have hup := (h.closing (by simpa using hcl)).1
  rw [hd] at hup
  cases hup

/-- A `connect()` throws, having changed at most what the library is to do, or returns normally,
having started a thread unless there has been one. -/
theorem connect_cases {c c' : MqttClient} {message : String} {rcConnect rcStart rcDisconnect : ℤ}
    {x : Option Failure} (h : c.connect message rcConnect rcStart rcDisconnect = (c', x)) :
    (c._connected = true ∧ c' = c ∧ x ≠ none)
      ∨ (c._connected = false ∧ rcConnect ≠ MOSQ_ERR_SUCCESS
        ∧ c' = { c with _context := c._context.connectAsync } ∧ x ≠ none)
      ∨ (c._connected = false ∧ rcConnect = MOSQ_ERR_SUCCESS ∧ c._active = true
        ∧ c' = { c with _context := c._context.connectAsync } ∧ x = none)
      ∨ (c._connected = false ∧ c._active = false
        ∧ c' = { c with _context := c._context.connectAsync.disconnect rcDisconnect } ∧ x ≠ none)
      ∨ (c._connected = false ∧ c._active = false
        ∧ c' = { c with _active := true,
                        _context := { c._context.connectAsync with thread := .running } }
        ∧ x = none) := by
  unfold MqttClient.connect at h
  rcases hc : c._connected with _ | _
  · by_cases hr : rcConnect = MOSQ_ERR_SUCCESS
    · rcases ha : c._active with _ | _
      · by_cases hs : rcStart = MOSQ_ERR_SUCCESS
        · simp [hc, hr, ha, hs, MosquittoContext.loopStart] at h
          simp [← h.1, ← h.2]
        · simp [hc, hr, ha, hs, MosquittoContext.loopStart] at h
          simp [← h.1, ← h.2]
      · simp [hc, hr, ha] at h
        simp [← h.1, ← h.2, hr]
    · simp [hc, hr] at h
      simp [← h.1, ← h.2, hr]
  · simp [hc] at h
    simp [← h.1, ← h.2]

theorem disconnect_cases {c c' : MqttClient} {rc : ℤ} {x : Option Failure}
    (h : c.disconnect rc = (c', x)) :
    (c._connected = false ∧ c' = c ∧ x = none)
      ∨ (c._connected = true ∧ c' = { c with _context := c._context.disconnect rc }
        ∧ (x = none ↔ rc = MOSQ_ERR_SUCCESS)) := by
  unfold MqttClient.disconnect at h
  rcases hc : c._connected with _ | _ <;> simp only [hc] at h
  · simp at h
    exact .inl ⟨rfl, h.1.symm, h.2.symm⟩
  · refine .inr ⟨rfl, ?_, ?_⟩
    · simp at h
      exact h.1.symm
    · by_cases hr : rc = MOSQ_ERR_SUCCESS <;> simp [hr] at h ⊢ <;> simp [← h.2]

theorem Linked.step (h : Linked s) (hs : Step s e t) : Linked t := by
  have hno := h.not_closing
  obtain ⟨hup, hclosing, hidle⟩ := h
  cases hs with
  | connect _ hcall =>
    rcases connect_cases hcall with ⟨hc, rfl, -⟩ | ⟨hc, -, rfl, -⟩ | ⟨hc, -, ha, rfl, -⟩
      | ⟨hc, ha, rfl, -⟩ | ⟨hc, ha, rfl, -⟩
    · exact ⟨hup, hclosing, hidle⟩
    all_goals
      have hopen := hno (hup.trans hc)
      constructor <;> simp_all [MosquittoContext.connectAsync, MosquittoContext.disconnect]
  | disconnect _ hcall =>
    rcases disconnect_cases hcall with ⟨-, rfl, -⟩ | ⟨hc, rfl, -⟩
    · exact ⟨hup, hclosing, hidle⟩
    · constructor <;> simp_all [MosquittoContext.disconnect]
  | connack _ hw hd =>
    have hopen := hno hd
    constructor <;>
      simp_all [MqttClient.connackReceived, MqttClient.emits, MosquittoContext.answered]
  | lost _ hu =>
    constructor <;> simp_all [MqttClient.connectionLost, MosquittoContext.lost]
  | exit _ hth =>
    constructor <;> simp_all [MosquittoContext.exited]
  | destruct _ =>
    constructor <;> simp_all [MqttClient.destruct, MosquittoContext.destroy,
      MosquittoContext.loopStop] <;> split <;> simp_all

theorem linked {C : State → Event → Prop} {s : State} (h : system.ReachableBy C s) :
    Linked s := by
  refine h.invariant (fun s hs => ?_) fun _ _ _ _ hl _ hs => hl.step hs
  obtain rfl : s = ⟨.create, false, false⟩ := hs
  exact ⟨rfl, nofun, fun _ => rfl⟩

/-! ## The network thread -/

/-- A client that is to be connected has its thread, and a destroyed one has stopped it before. -/
structure Served (s : State) : Prop where
  connecting : s.connecting = true → s.client._context.thread = .running
  destroyed : ∀ thread, s.client._context.destroyed = some thread → thread = .none

/-- No `connect()` goes by a thread that has ended, and none is running when the client is destroyed
without a connection. -/
def HasThread (s : State) : Event → Prop
  | .connect _ rcConnect _ _ => s.client._connected = false → rcConnect = MOSQ_ERR_SUCCESS →
    s.client._active = true → s.client._context.thread = .running
  | .destruct => s.client._context.thread = .none ∨ s.client._connected = true
  | _ => True

/-- What `Served` rests on: only a requested disconnect ends the thread. -/
structure Serving (s : State) : Prop extends Served s where
  kept : s.connecting = true → s.client._context.closing = false

theorem Serving.step (hl : Linked s) (h : Serving s) (hs : Step s e t) (hc : HasThread s e) :
    Serving t := by
  obtain ⟨⟨hconnecting, hdestroyed⟩, hkept⟩ := h
  have hup := hl.up
  have hno : s.client._connected = false → s.client._context.closing = false := fun hfalse =>
    hl.not_closing (hup.trans hfalse)
  cases hs with
  | connect _ hcall =>
    rcases connect_cases hcall with ⟨-, rfl, hx⟩ | ⟨-, -, rfl, hx⟩ | ⟨hfalse, hr, ha, rfl, rfl⟩
      | ⟨hfalse, ha, rfl, hx⟩ | ⟨hfalse, ha, rfl, rfl⟩
    · exact ⟨⟨by simpa [hx] using hconnecting, hdestroyed⟩, by simpa [hx] using hkept⟩
    · exact ⟨⟨by simpa [hx, MosquittoContext.connectAsync] using hconnecting, hdestroyed⟩,
        by simpa [hx, MosquittoContext.connectAsync] using hkept⟩
    · exact ⟨⟨fun _ => hc hfalse hr ha, hdestroyed⟩, fun _ => hno hfalse⟩
    · refine ⟨⟨?_, hdestroyed⟩, fun _ => ?_⟩
      · simpa [hx, MosquittoContext.connectAsync, MosquittoContext.disconnect] using hconnecting
      · simp [MosquittoContext.disconnect, MosquittoContext.connectAsync, hno hfalse, hup, hfalse]
    · exact ⟨⟨fun _ => rfl, hdestroyed⟩, fun _ => hno hfalse⟩
  | disconnect _ hcall =>
    rcases disconnect_cases hcall with ⟨-, rfl, -⟩ | ⟨-, rfl, -⟩ <;>
      exact ⟨⟨nofun, hdestroyed⟩, nofun⟩
  | connack _ _ _ => exact ⟨⟨hconnecting, hdestroyed⟩, hkept⟩
  | lost _ _ =>
    refine ⟨⟨fun hk => ?_, hdestroyed⟩, fun _ => rfl⟩
    simp [MqttClient.connectionLost, MosquittoContext.lost, hkept hk, hconnecting hk]
  | exit _ hth =>
    refine ⟨⟨fun hk => ?_, hdestroyed⟩, hkept⟩
    rw [hconnecting hk] at hth
    cases hth
  | destruct _ =>
    refine ⟨⟨nofun, fun thread hth => ?_⟩, nofun⟩
    unfold MqttClient.destruct at hth
    split at hth
    · exact (Option.some.inj hth).symm
    next hfalse => exact (Option.some.inj hth).symm.trans (hc.resolve_right hfalse)

theorem hasThread_of_served (hs : Step s e t) (h : Served t) : HasThread s e := by
  cases hs with
  | connect _ hcall =>
    intro hfalse hr ha
    rcases connect_cases hcall with ⟨hc, -⟩ | ⟨-, hne, -⟩ | ⟨-, -, -, rfl, rfl⟩ | ⟨-, hna, -⟩
      | ⟨-, hna, -⟩
    · rw [hfalse] at hc
      cases hc
    · exact absurd hr hne
    · exact h.connecting (by simp)
    · rw [ha] at hna
      cases hna
    · rw [ha] at hna
      cases hna
  | destruct _ =>
    rcases hc : s.client._connected with _ | _
    · refine .inl (h.destroyed _ ?_)
      simp [MqttClient.destruct, hc, MosquittoContext.destroy]
    · exact .inr hc
  | disconnect _ _ | connack _ _ _ | lost _ _ | exit _ _ => trivial

/-- While each `connect()` finds a running thread or starts one, and the client is destroyed
connected or without a thread, there is a thread where one is needed and none where it does harm;
and the first step that is otherwise ends this. -/
theorem thread_served {s : State} (h : system.ReachableBy HasThread s) :
    Served s ∧ ∀ e t, Step s e t → (HasThread s e ↔ Served t) := by
  have hserving : Serving s := by
    refine h.invariant (fun s hs => ?_) fun _ _ _ hr hp hc hs => hp.step (linked hr) hs hc
    obtain rfl : s = ⟨.create, false, false⟩ := hs
    exact ⟨⟨nofun, nofun⟩, nofun⟩
  exact ⟨hserving.toServed, fun e t hs =>
    ⟨fun hc => (hserving.step (linked h) hs hc).toServed, hasThread_of_served hs⟩⟩

/-- Connected, disconnected and connected again, the client has no thread. -/
theorem second_connect_idle : ¬ ∀ s, system.Reachable s → Served s := by
  intro h
  have h0 : system.Reachable ⟨.create, false, false⟩ := .init rfl
  have h1 := h0.next (e := Event.connect "" 0 0 0) (.connect rfl rfl)
  have h2 := h1.next (e := Event.connack 0) (.connack rfl rfl rfl)
  have h3 := h2.next (e := Event.disconnect 0) (.disconnect rfl rfl)
  have h4 := h3.next (e := Event.lost) (.lost rfl rfl)
  have h5 := h4.next (e := Event.exit) (.exit rfl rfl)
  have h6 := h5.next (e := Event.connect "" 0 0 0) (.connect rfl rfl)
  exact absurd ((h _ h6).connecting rfl) (by decide)

theorem thread_served_once : ∃ s : State, s.client._context.destroyed = some .none ∧ Served s := by
  have h0 : system.ReachableBy HasThread ⟨.create, false, false⟩ := .init rfl
  have h1 := h0.step (e := Event.connect "" 0 0 0) nofun (.connect rfl rfl)
  have h2 := h1.step (e := Event.connack 0) trivial (.connack rfl rfl rfl)
  have h3 := h2.step (e := Event.disconnect 0) trivial (.disconnect rfl rfl)
  have h4 := h3.step (e := Event.lost) trivial (.lost rfl rfl)
  have h5 := h4.step (e := Event.exit) trivial (.exit rfl rfl)
  have h6 := h5.step (e := Event.destruct) (.inl rfl) (.destruct rfl)
  exact ⟨_, rfl, (thread_served h6).1⟩

/-! ## A requested disconnect -/

/-- After `disconnect()` has returned, there is no connection once it has been carried out, and
there is not to be one. -/
structure Stays (s : State) : Prop where
  connected : s.disconnected = true → s.client._context.closing = false →
    s.client._connected = false
  silent : s.disconnected = true → ∀ status t, Step s (.connack status) t →
    MqttClient.emits status = false

/-- `disconnect()` is called over a connection, or when the library is not to establish one. -/
def Heard (s : State) : Event → Prop
  | .disconnect _ => s.client._connected = true ∨ s.client._context.wanted = false
  | _ => True

structure Unwanted (s : State) : Prop where
  wanted : s.disconnected = true → s.client._context.wanted = false
  closed : s.disconnected = true → s.client._context.closing = false →
    s.client._connected = false

theorem Unwanted.stays (h : Unwanted s) : Stays s := by
  refine ⟨h.closed, fun hd status t hs => ?_⟩
  cases hs with
  | connack _ hw _ =>
    rw [h.wanted hd] at hw
    cases hw

theorem Unwanted.step (hl : Linked s) (h : Unwanted s) (hs : Step s e t) (hc : Heard s e) :
    Unwanted t := by
  obtain ⟨hwanted, hclosed⟩ := h
  cases hs with
  | connect _ hcall => exact ⟨nofun, nofun⟩
  | @disconnect rc c x _ hcall =>
    rcases disconnect_cases hcall with ⟨hfalse, rfl, rfl⟩ | ⟨htrue, rfl, hx⟩
    · rw [Heard, hfalse] at hc
      exact ⟨fun _ => hc.resolve_left (by simp), fun _ _ => hfalse⟩
    · refine ⟨fun _ => rfl, fun hd hcl => ?_⟩
      simp [MosquittoContext.disconnect, hl.up, htrue] at hcl
      rcases x with _ | x
      · exact absurd (hx.1 rfl) hcl.2
      · exact hclosed (by simpa using hd) hcl.1
  | connack _ hw _ =>
    refine ⟨hwanted, fun hd => ?_⟩
    rw [hwanted hd] at hw
    cases hw
  | lost _ _ => exact ⟨hwanted, fun _ _ => rfl⟩
  | exit _ _ => exact ⟨hwanted, hclosed⟩
  | destruct _ => exact ⟨nofun, nofun⟩

/-- A `disconnect()` during an attempt leaves the library free to complete it. -/
theorem heard_of_stays (hl : Linked s) (hs : Step s e t) (h : Stays t) : Heard s e := by
  cases hs with
  | @disconnect rc c x hnot hcall =>
    rcases disconnect_cases hcall with ⟨hfalse, rfl, rfl⟩ | ⟨htrue, -, -⟩
    · by_contra hbad
      rw [Heard, not_or] at hbad
      have hstep : Step ⟨s.client, false, s.disconnected || true⟩ (.connack 0) _ :=
        .connack hnot (by simpa using hbad.2) (hl.up.trans hfalse)
      have := h.silent (by simp) 0 _ hstep
      cases this
    · exact .inl htrue
  | connect _ _ | connack _ _ _ | lost _ _ | exit _ _ | destruct _ => trivial

/-- A requested disconnect sticks as long as each is requested over a connection or when none is to
be established; and the first one that is not need not. -/
theorem disconnect_heard {s : State} (h : system.ReachableBy Heard s) :
    Stays s ∧ ∀ e t, Step s e t → (Heard s e ↔ Stays t) := by
  have hunwanted : Unwanted s := by
    refine h.invariant (fun s hs => ?_) fun _ _ _ hr hp hc hs => hp.step (linked hr) hs hc
    obtain rfl : s = ⟨.create, false, false⟩ := hs
    exact ⟨nofun, nofun⟩
  exact ⟨hunwanted.stays, fun e t hs =>
    ⟨fun hc => (hunwanted.step (linked h) hs hc).stays, heard_of_stays (linked h) hs⟩⟩

/-- `disconnect()` is called while the attempt is under way, which then succeeds. -/
theorem disconnect_unheard : ¬ ∀ s, system.Reachable s → Stays s := by
  intro h
  have h0 : system.Reachable ⟨.create, false, false⟩ := .init rfl
  have h1 := h0.next (e := Event.connect "" 0 0 0) (.connect rfl rfl)
  have h2 := h1.next (e := Event.disconnect 0) (.disconnect rfl rfl)
  have h3 := h2.next (e := Event.connack 0) (.connack rfl rfl rfl)
  exact absurd ((h _ h3).connected rfl rfl) (by decide)

theorem disconnect_heard_connected : ∃ s : State, s.disconnected = true
    ∧ s.client._context.closing = false ∧ s.client._connected = false := by
  have h0 : system.ReachableBy Heard ⟨.create, false, false⟩ := .init rfl
  have h1 := h0.step (e := Event.connect "" 0 0 0) trivial (.connect rfl rfl)
  have h2 := h1.step (e := Event.connack 0) trivial (.connack rfl rfl rfl)
  have h3 := h2.step (e := Event.disconnect 0) (.inl rfl) (.disconnect rfl rfl)
  have h4 := h3.step (e := Event.lost) trivial (.lost rfl rfl)
  exact ⟨_, rfl, rfl, (disconnect_heard h4).1.connected rfl rfl⟩

end Connection

end SensorityCollector
