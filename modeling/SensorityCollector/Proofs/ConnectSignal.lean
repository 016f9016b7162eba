import SensorityCollector.Proofs.Emission

/-!
# The connect signal and a request that is rejected

The slots run in the order of the observers. The first one whose SUBSCRIBE the library rejects
throws, the exception leaves the signal and the static callback, and the observers behind it are
not asked: they get what they are waiting for exactly if no pending observer is rejected.
-/

namespace SensorityCollector

variable {rc : ℕ → ℤ} {observers : List SensorDataObserver}

/-- No exception leaves the callback, each observer with a pending subscription that the library
does not reject has sent its SUBSCRIBE, and each one that it rejects stays pending. -/
def EachServed (rc : ℕ → ℤ) (mid : ℕ → ℕ) (observers : List SensorDataObserver) (x : Emitted) :
    Prop :=
  x.thrown = none ∧ ∀ n o, observers[n]? = some o → o._subscribe = true →
    if rc n = MOSQ_ERR_SUCCESS then ⟨n, .subscribe (mid n) o._topic⟩ ∈ x.requests
    else ∃ o', x.observers[n]? = some o' ∧ o'._subscribe = true

def NoneRejected (rc : ℕ → ℤ) (observers : List SensorDataObserver) : Prop :=
  ∀ n o, observers[n]? = some o → o._subscribe = true → rc n = MOSQ_ERR_SUCCESS

theorem onConnect_answered (mid : ℕ → ℕ) {o : SensorDataObserver} (ho : o._subscribe = true)
    (n : ℕ) :
    o.onConnect true (MqttClient.subscribe (rc n) (mid n))
      = if rc n = MOSQ_ERR_SUCCESS
        then .ok ({ o with _mid := mid n }, some (.subscribe (mid n) o._topic))
        else .error (makeException "Subscribe to the topic" (rc n)) := by
  rw [SensorDataObserver.onConnect_pending ho]
  split
  next hr => rw [hr, SensorDataObserver.subscribe_up]
  next hr => simp [SensorDataObserver.subscribe, MqttClient.subscribe, hr]

/-- Up to the first pending observer that is rejected, the slots run; from there on, none does. -/
theorem emit_rejected (mid : ℕ → ℕ) {o : SensorDataObserver} (ho : o._subscribe = true) :
    ∀ (before : List SensorDataObserver) (n : ℕ) (after : List SensorDataObserver),
      (∀ i p, before[i]? = some p → p._subscribe = true → rc (n + i) = MOSQ_ERR_SUCCESS) →
      rc (n + before.length) ≠ MOSQ_ERR_SUCCESS →
      let x := MqttClient.emitConnectSignal true
        (fun n => MqttClient.subscribe (rc n) (mid n)) n (before ++ o :: after)
      x.thrown = some (makeException "Subscribe to the topic" (rc (n + before.length)))
        ∧ x.observers.drop before.length = o :: after
        ∧ ∀ r ∈ x.requests, r.owner < n + before.length
  | [], n, after, _, hrej => by
    have hrej : rc n ≠ MOSQ_ERR_SUCCESS := by simpa using hrej
    simp [MqttClient.emitConnectSignal, onConnect_answered mid ho, hrej]
  | p :: before, n, after, hok, hrej => by
    have hp : ∃ p' r, p.onConnect true (MqttClient.subscribe (rc n) (mid n)) = .ok (p', r) := by
      rcases hs : p._subscribe with _ | _
      · exact ⟨_, _, SensorDataObserver.onConnect_idle hs _ _⟩
      · rw [onConnect_answered mid hs, if_pos (by simpa using hok 0 p rfl hs)]
        exact ⟨_, _, rfl⟩
    obtain ⟨p', r, hp⟩ := hp
    have ih := emit_rejected mid ho before (n + 1) after (fun i q hq hs => by
        rw [Nat.add_right_comm]; exact hok (i + 1) q (by simpa using hq) hs)
      (by rwa [Nat.add_right_comm, Nat.add_assoc])
    simp only [List.cons_append, MqttClient.emitConnectSignal, hp, List.length_cons,
      List.drop_succ_cons]
    rw [show n + (before.length + 1) = n + 1 + before.length by omega]
    refine ⟨ih.1, ih.2.1, fun q hq => ?_⟩
    rcases List.mem_append.1 hq with hq | hq
    · obtain ⟨q', -, rfl⟩ : ∃ q', r = some q' ∧ ⟨n, q'⟩ = q := by simpa using hq
      simp only
      omega
    · exact ih.2.2 q hq

theorem emit_accepted (mid : ℕ → ℕ) : ∀ (os : List SensorDataObserver) (n : ℕ),
    (∀ i o, os[i]? = some o → o._subscribe = true → rc (n + i) = MOSQ_ERR_SUCCESS) →
    let x := MqttClient.emitConnectSignal true
      (fun n => MqttClient.subscribe (rc n) (mid n)) n os
    x.thrown = none ∧ ∀ i o, os[i]? = some o → o._subscribe = true →
      ⟨n + i, .subscribe (mid (n + i)) o._topic⟩ ∈ x.requests
  | [], n, _ => by simp [MqttClient.emitConnectSignal]
  | o :: os, n, hok => by
    have ih := emit_accepted mid os (n + 1) fun i p hp hs => by
      rw [Nat.add_right_comm]; exact hok (i + 1) p (by simpa using hp) hs
    have hlater : ∀ r : Option Request, ∀ i p, (o :: os)[i + 1]? = some p → p._subscribe = true →
        (⟨n + (i + 1), .subscribe (mid (n + (i + 1))) p._topic⟩ : Sent)
          ∈ (r.map (Sent.mk n)).toList ++ (MqttClient.emitConnectSignal true
            (fun n => MqttClient.subscribe (rc n) (mid n)) (n + 1) os).requests := by
      intro r i p hp hs
      rw [show n + (i + 1) = n + 1 + i by omega]
      exact List.mem_append_right _ (ih.2 i p (by simpa using hp) hs)
    rcases hs : o._subscribe with _ | _
    · simp only [MqttClient.emitConnectSignal, SensorDataObserver.onConnect_idle hs]
      refine ⟨ih.1, fun i p hp hps => ?_⟩
      rcases i with _ | i
      · obtain rfl : o = p := by simpa using hp
        simp [hs] at hps
      · exact hlater none i p hp hps
    · have hrc : rc n = MOSQ_ERR_SUCCESS := by simpa using hok 0 o rfl hs
      simp only [MqttClient.emitConnectSignal, onConnect_answered mid hs, if_pos hrc]
      refine ⟨ih.1, fun i p hp hps => ?_⟩
      rcases i with _ | i
      · obtain rfl : o = p := by simpa using hp
        simp
      · exact hlater _ i p hp hps

theorem exists_first_rejected (h : ¬ NoneRejected rc observers) :
    ∃ before o after, observers = before ++ o :: after ∧ o._subscribe = true
      ∧ rc before.length ≠ MOSQ_ERR_SUCCESS
      ∧ ∀ i p, before[i]? = some p → p._subscribe = true → rc i = MOSQ_ERR_SUCCESS := by
  classical
  have hex : ∃ n, ∃ o, observers[n]? = some o ∧ o._subscribe = true ∧ rc n ≠ MOSQ_ERR_SUCCESS := by
    unfold NoneRejected at h
    push Not at h
    exact h
  obtain ⟨o, ho, hs, hrc⟩ := Nat.find_spec hex
  set n := Nat.find hex with hn
  have hlt : n < observers.length := (List.getElem?_eq_some_iff.1 ho).1
  have hlen : (observers.take n).length = n := List.length_take_of_le hlt.le
  refine ⟨observers.take n, o, observers.drop (n + 1), ?_, hs, by rwa [hlen], fun i p hp hps => ?_⟩
  · have hon : observers[n] = o := (List.getElem?_eq_some_iff.1 ho).2
    rw [← hon, List.cons_getElem_drop_succ, List.take_append_drop]
  · have hi : i < n := by
      have := (List.getElem?_eq_some_iff.1 hp).1
      rwa [hlen] at this
    rw [List.getElem?_take_of_lt hi] at hp
    by_contra hbad
    exact Nat.find_min hex (hn ▸ hi) ⟨p, hp, hps, hbad⟩

/-- An accepted CONNACK serves each of the observers exactly if none that is pending is
rejected. -/
theorem eachServed_iff (rc : ℕ → ℤ) (mid : ℕ → ℕ) (observers : List SensorDataObserver) :
    EachServed rc mid observers (MqttClient.onConnect 0
        (fun n => MqttClient.subscribe (rc n) (mid n)) observers).2
      ↔ NoneRejected rc observers := by
  change EachServed rc mid observers (MqttClient.emitConnectSignal true
    (fun n => MqttClient.subscribe (rc n) (mid n)) 0 observers) ↔ _
  constructor
  · intro h
    by_contra hbad
    obtain ⟨before, o, after, rfl, hs, hrc, hok⟩ := exists_first_rejected hbad
    have hthrown := (emit_rejected mid hs before 0 after (by simpa using hok)
      (by simpa using hrc)).1
    rw [h.1] at hthrown
    cases hthrown
  · intro h
    obtain ⟨hnone, hsent⟩ := emit_accepted mid observers 0 (by simpa [NoneRejected] using h)
    refine ⟨hnone, fun n o ho hs => ?_⟩
    rw [if_pos (h n o ho hs)]
    simpa using hsent n o ho hs

/-- An observer whose `subscribe()` was called before the client was connected. -/
def pendingObserver (topic : String) : SensorDataObserver :=
  { (SensorDataObserver.create topic .gas).setUp with _subscribe := true }

/-- Of two pending observers, the first is rejected. The exception leaves the callback, and the
second has sent nothing. -/
theorem second_not_asked : ¬ ∀ (rc : ℕ → ℤ) (mid : ℕ → ℕ) (observers : List SensorDataObserver),
    EachServed rc mid observers (MqttClient.onConnect 0
      (fun n => MqttClient.subscribe (rc n) (mid n)) observers).2 := by
  intro h
  have := (h (fun n => if n = 0 then MOSQ_ERR_NO_CONN else MOSQ_ERR_SUCCESS) (fun n => n + 1)
    [pendingObserver "gas", pendingObserver "iaq"]).2 1 _ rfl rfl
  rw [if_pos (by decide)] at this
  exact absurd this (by decide)

end SensorityCollector
