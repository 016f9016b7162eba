import SensorityCollector.Proofs.StorageReturns
import SensorityCollector.Proofs.Unsubscribe
import SensorityCollector.Subsystem

/-!
# Whether the shutdown completes

`uninitialize()` comes to its end exactly if every observer whose `_subscribed` is set is granted
its request. Without a connection none is, and the flag outlives the connection.
-/

namespace SensorityCollector

open Transition

variable {J T W O : Type*} {c : DataStorage.Config J W O} {w₀ : W → Prop} {turn : ℕ → Turn}

/-- When its turn comes, the observer has nothing to unsubscribe, or its request is accepted. -/
def Turn.passes (t : Turn) (o : SensorDataObserver) : Prop :=
  (t.network o)._subscribed = true → t.rc = MOSQ_ERR_SUCCESS

theorem Turn.unsubscribe_ok (t : Turn) (o : SensorDataObserver) :
    (∃ x, (t.network o).unsubscribe (MqttClient.unsubscribe t.rc t.mid) = .ok x) ↔ t.passes o := by
  unfold passes SensorDataObserver.unsubscribe MqttClient.unsubscribe
  by_cases hs : (t.network o)._subscribed = true
  · by_cases hr : t.rc = MOSQ_ERR_SUCCESS <;> simp [hs, hr]
  · simp [hs]

/-- The loop over the observers comes to its end exactly if each of them passes. -/
theorem CompositeDataObserver.unsubscribe_none (turn : ℕ → Turn) (n : ℕ)
    (observers : List SensorDataObserver) :
    (unsubscribe turn n observers).2 = none
      ↔ ∀ i o, observers[i]? = some o → (turn (n + i)).passes o := by
  induction observers generalizing n with
  | nil => simp [unsubscribe]
  | cons o rest ih =>
    have hfirst := (turn n).unsubscribe_ok o
    unfold unsubscribe
    dsimp only
    rcases hu : ((turn n).network o).unsubscribe
      (MqttClient.unsubscribe (turn n).rc (turn n).mid) with e | ⟨o', r⟩
    · rw [hu] at hfirst
      refine iff_of_false (by simp) fun h => ?_
      obtain ⟨x, hx⟩ := hfirst.2 (h 0 o rfl)
      cases hx
    · have hpass := hfirst.1 ⟨_, hu⟩
      refine (ih (n + 1)).trans ⟨fun h i x hx => ?_, fun h i x hx => ?_⟩
      · rcases i with _ | i
        · obtain rfl : o = x := by simpa using hx
          exact hpass
        · rw [show n + (i + 1) = n + 1 + i by omega]
          exact h i x hx
      · rw [show n + 1 + i = n + (i + 1) by omega]
        exact h (i + 1) x hx

variable [DecidableEq T]

/-- What a call of `tearDown()` may leave, whatever the other threads do meanwhile. -/
def DataStorage.TearsDown (c : Config J W O) (w₀ : W → Prop) (s t : State J T W) : Prop :=
  ∃ s₁ es u, Step c s (.tearDown : Event J T O) s₁
    ∧ (system c w₀).Run (fun _ e => e ≠ .returned ∧ e.reenters = false) s₁ es u
    ∧ Step c u (.returned : Event J T O) t

namespace StorageSubsystem

variable {sub : StorageSubsystem J T W}

/-- `tearDown()` of the storage comes back from wherever the threads may have got to, and then
`uninitialize()` returns with the worker stopped, all connections of the observers released and the
connector unregistered. -/
structure Completes (c : DataStorage.Config J W O) (w₀ : W → Prop) (turn : ℕ → Turn)
    (sub : StorageSubsystem J T W) : Prop where
  returns : ∀ s ∈ sub._storage, ∀ s₁ es u,
    DataStorage.Step c s (.tearDown : DataStorage.Event J T O) s₁ →
    (DataStorage.system c w₀).Run (fun _ e => e ≠ .returned ∧ e.reenters = false) s₁ es u →
      DataStorage.CanReturn c w₀ u
  completes : ∀ stopped, Option.Rel (DataStorage.TearsDown c w₀) sub._storage stopped →
    (sub.uninitialize turn stopped).2 = none
      ∧ (∀ t ∈ (sub.uninitialize turn stopped).1._storage, ∀ k, (t.workers k).alive = false)
      ∧ (∀ observers ∈ (sub.uninitialize turn stopped).1._observer, ∀ o ∈ observers,
          o.connections = ⟨false, false, false, false, false⟩)
      ∧ (sub.uninitialize turn stopped).1.registered = false

omit [DecidableEq T] in
theorem uninitialize_none (stopped : Option (DataStorage.State J T W)) :
    (sub.uninitialize turn stopped).2 = none
      ↔ ∀ observers ∈ sub._observer, ∀ i o, observers[i]? = some o → (turn i).passes o := by
  unfold uninitialize
  rcases sub._observer with _ | observers
  · simp
  · have h := CompositeDataObserver.unsubscribe_none turn 0 observers
    simp only [Nat.zero_add] at h
    simp only [Option.mem_some, forall_eq', ← h]
    rcases CompositeDataObserver.unsubscribe turn 0 observers with ⟨left, _ | e⟩ <;> simp

omit [DecidableEq T] in
/-- An `uninitialize()` that returns has released everything. -/
theorem uninitialize_released {stopped : Option (DataStorage.State J T W)}
    (h : (sub.uninitialize turn stopped).2 = none) :
    (sub.uninitialize turn stopped).1._storage = stopped
      ∧ (∀ observers ∈ (sub.uninitialize turn stopped).1._observer, ∀ o ∈ observers,
          o.connections = ⟨false, false, false, false, false⟩)
      ∧ (sub.uninitialize turn stopped).1.registered = false := by
  revert h
  unfold uninitialize
  rcases sub._observer with _ | observers
  · simp
  · rcases hu : CompositeDataObserver.unsubscribe turn 0 observers with ⟨left, _ | e⟩
    · simp [hu, CompositeDataObserver.tearDown, SensorDataObserver.tearDown]
    · simp [hu]

theorem exists_stopped (o : O) (sub : StorageSubsystem J T W)
    (hs : ∀ s ∈ sub._storage, DataStorage.Plain c w₀ s ∧ s.owner = .idle) :
    ∃ stopped, Option.Rel (DataStorage.TearsDown c w₀) sub._storage stopped := by
  rcases hst : sub._storage with _ | s
  · exact ⟨none, .none⟩
  · obtain ⟨hp, hidle⟩ := hs s hst
    have hc : DataStorage.Step c s (.tearDown : DataStorage.Event J T O) _ := .tearDown hidle
    obtain ⟨⟨es, u, t, hr, ht⟩, -⟩ := DataStorage.tearDown_returns hp o hc (.nil _)
    exact ⟨some t, .some ⟨_, es, u, hc, hr.mono fun _ _ he => ⟨he.1, he.2.1⟩, ht⟩⟩

/-- The shutdown completes exactly if every observer, when its turn comes, has `_subscribed` unset
or its request accepted; without a connection, exactly if none has `_subscribed` set. -/
theorem uninitialize_completes_iff (o : O)
    (hs : ∀ s ∈ sub._storage, DataStorage.Plain c w₀ s ∧ s.owner = .idle) :
    (Completes c w₀ turn sub
        ↔ ∀ observers ∈ sub._observer, ∀ i x, observers[i]? = some x → (turn i).passes x)
      ∧ ((∀ i, (turn i).connected = false) → (Completes c w₀ turn sub
        ↔ ∀ observers ∈ sub._observer, ∀ i x, observers[i]? = some x →
            ((turn i).network x)._subscribed = false)) := by
  have hiff : Completes c w₀ turn sub
      ↔ ∀ observers ∈ sub._observer, ∀ i x, observers[i]? = some x → (turn i).passes x := by
    constructor
    · intro h
      obtain ⟨stopped, hst⟩ := exists_stopped o sub hs
      exact (uninitialize_none stopped).1 (h.completes stopped hst).1
    · intro h
      refine ⟨fun s hmem s₁ es u hc hr => ?_, fun stopped hst => ?_⟩
      · exact (DataStorage.tearDown_returns (hs s hmem).1 o hc hr).1
      · have hnone := (uninitialize_none stopped).2 h
        obtain ⟨hstorage, hreleased⟩ := uninitialize_released hnone
        refine ⟨hnone, fun t ht => ?_, hreleased⟩
        rw [hstorage, Option.mem_def] at ht
        rcases hsub : sub._storage with _ | s
        · rw [hsub, ht] at hst
          cases hst
        · rw [hsub, ht] at hst
          obtain ⟨s₁, es, u, hc, hr, hret⟩ : DataStorage.TearsDown c w₀ s t := by
            cases hst
            assumption
          exact (DataStorage.tearDown_returns (hs s hsub).1 o hc hr).2 t hret
  refine ⟨hiff, fun hconn => hiff.trans ?_⟩
  have hpasses : ∀ i x, (turn i).passes x ↔ ((turn i).network x)._subscribed = false := by
    intro i x
    have hrc := (turn i).no_conn (hconn i)
    unfold Turn.passes
    rw [hrc]
    cases ((turn i).network x)._subscribed <;> simp [MOSQ_ERR_NO_CONN, MOSQ_ERR_SUCCESS]
  simp only [hpasses]

def lost : Turn := ⟨id, false, MOSQ_ERR_NO_CONN, 0, fun _ => rfl⟩

/-- An observer whose subscription was acknowledged before the connection was closed. -/
def leftover : SensorDataObserver :=
  { (SensorDataObserver.create "sensor" .temperature).setUp with
    _subscribe := true, _subscribed := true }

theorem leftover_reachable : ∃ s : Subscription.State,
    (Subscription.system false leftover._topic leftover._accessor).Reachable s
      ∧ s.observer = leftover ∧ s.link = .disconnected := by
  have hr : (Subscription.system false "sensor" .temperature).Run (fun _ _ => True)
      (Subscription.start "sensor" .temperature)
      [.connect, .onConnect 0 1, .subscribe 0 1, .serve true, .acknowledge (.subscribe 1 "sensor"),
        .disconnect, .onDisconnect]
      { observer := leftover, link := .disconnected, sent := [], acks := [], held := false,
        lastCall := some .subscribe, since := [.subscribe 1 "sensor"] } :=
    Subscription.run_of_fire rfl
  exact ⟨_, hr.reachableBy (.init rfl), rfl, rfl⟩

theorem plainReady_plain : DataStorage.Plain DataStorage.plain (fun _ => True)
    DataStorage.plainReady := by
  refine ⟨DataStorage.plain_setUp, ?_⟩
  rintro ⟨k, p, hk⟩
  by_cases h0 : k = 0 <;>
    simp [DataStorage.plainReady, DataStorage.fresh, DataStorage.State.setWorker, h0] at hk

/-- The client has been disconnected before, as it is at the end of the application: the one
observer that was subscribed keeps the shutdown from completing. -/
theorem shutdown_aborts : ¬ ∀ sub : StorageSubsystem ℕ Unit Unit,
    (∀ s ∈ sub._storage, DataStorage.Plain DataStorage.plain (fun _ => True) s
      ∧ s.owner = .idle) →
    (∀ observers ∈ sub._observer, ∀ o ∈ observers, ∃ s,
      (Subscription.system false o._topic o._accessor).Reachable s ∧ s.observer = o
        ∧ s.link = .disconnected) →
    Completes DataStorage.plain (fun _ => True) (fun _ => lost) sub := by
  intro h
  have hplain : ∀ s ∈ some DataStorage.plainReady,
      DataStorage.Plain DataStorage.plain (fun _ => True) s ∧ s.owner = .idle := by
    simpa using ⟨plainReady_plain, rfl⟩
  have hc := h ⟨some DataStorage.plainReady, some [leftover], true⟩ hplain (by
    simpa using leftover_reachable)
  obtain ⟨stopped, hst⟩ := exists_stopped ()
    ⟨some DataStorage.plainReady, some [leftover], true⟩ hplain
  have hpasses := (uninitialize_none stopped).1 (hc.completes stopped hst).1 [leftover] rfl 0
    leftover rfl rfl
  simp [lost, MOSQ_ERR_NO_CONN, MOSQ_ERR_SUCCESS] at hpasses

theorem shutdown_completes_idle : Completes DataStorage.plain (fun _ => True) (fun _ => lost)
    ⟨some DataStorage.plainReady, some [(SensorDataObserver.create "sensor" .temperature).setUp],
      true⟩ := by
  refine ((uninitialize_completes_iff () (by simpa using ⟨plainReady_plain, rfl⟩)).2
    fun _ => rfl).2 ?_
  intro observers hobservers i x hx
  obtain rfl : [_] = observers := by simpa using hobservers
  rcases i with _ | i
  · obtain rfl : _ = x := by simpa using hx
    rfl
  · simp at hx

end StorageSubsystem

end SensorityCollector
