import SensorityCollector.Interleaving

/-!
# When `subscribe()` and the network thread get in each other's way

The order of the statements matters in three places. Between its `connected()` and its store to
`_subscribe`, `onConnect` must not miss the wish and the handler of a SUBACK not take it back, or it
is stored for a connection that is there already. Between the request and the store of its id, its
SUBACK must not be compared with `_mid`, or the id is kept for good. In every other order the
observer ends up subscribed.
-/

namespace SensorityCollector

open Transition

namespace Interleaving

variable {s t : State} {e : Event} {m mid : ℕ} {topic : String} {accessor : Sensor}

/-! ## The statements together -/

theorem exists_fresh (s : State) : ∃ mid, s.Fresh mid := by
  obtain ⟨mid, hmid⟩ := Infinite.exists_notMem_finset (insert 0 s.unacknowledged.toFinset)
  simp only [Finset.mem_insert, List.mem_toFinset, not_or] at hmid
  exact ⟨mid, hmid⟩

/-- With nobody in between, the statements of `subscribe()` are `subscribe()`. -/
theorem uninterrupted_subscribe (hu : s.user = some .ask) (hf : s.Fresh mid) : ∃ es t r,
    (system topic accessor).Run (fun _ _ => True) s es t ∧ t.user = none
      ∧ s.observer.subscribe s.connected (MqttClient.subscribe MOSQ_ERR_SUCCESS mid)
        = .ok (t.observer, r) ∧ t.sent = s.sent ++ r.toList := by
  rcases hc : s.connected with _ | _
  · have h1 := System.Run.single (S := system topic accessor) (C := fun _ _ => True) trivial
      (Step.user mid hu hf (by rw [State.advance, hc]))
    refine ⟨_, _, none, h1.snoc trivial (Step.user mid rfl hf rfl), rfl, ?_, by simp⟩
    exact s.observer.subscribe_down _
  · have h1 := System.Run.single (S := system topic accessor) (C := fun _ _ => True) trivial
      (Step.user mid hu hf (by rw [State.advance, hc]))
    have h2 := h1.snoc trivial (Step.user mid rfl hf rfl)
    obtain ⟨mid', hf'⟩ := exists_fresh { s with
      unacknowledged := s.unacknowledged ++ [mid] }
    refine ⟨_, _, some (.subscribe mid s.observer._topic),
      h2.snoc trivial (Step.user mid' rfl hf' rfl), rfl, ?_, rfl⟩
    exact s.observer.subscribe_up mid

theorem uninterrupted_onSubscribe (hn : s.network = .compare m) : ∃ es t,
    (system topic accessor).Run (fun _ _ => True) s es t ∧ t.network = .idle
      ∧ t.observer = s.observer.onSubscribe m := by
  obtain ⟨mid, hf⟩ := exists_fresh s
  have h1 := System.Run.single (S := system topic accessor) (C := fun _ _ => True) trivial
    (Step.network mid (by rw [hn]; simp) hf)
  by_cases hm : m = s.observer._mid
  · rw [hn, State.handle, if_pos hm] at h1
    have h2 := h1.snoc trivial (Step.network mid (by simp) hf)
    have h3 := h2.snoc trivial (Step.network mid (by simp [State.handle]) hf)
    have h4 := h3.snoc trivial (Step.network mid (by simp [State.handle]) hf)
    refine ⟨_, _, h4, rfl, ?_⟩
    simp [State.handle, State.acknowledged, SensorDataObserver.onSubscribe, hm]
  · rw [hn, State.handle, if_neg hm] at h1
    refine ⟨_, _, h1, rfl, ?_⟩
    simp [State.acknowledged, SensorDataObserver.onSubscribe, hm]

/-! ## What `subscribe()` is for, and the order it needs -/

def State.Sent (s : State) : Prop := ∃ mid, .subscribe mid s.observer._topic ∈ s.sent

/-- A call of `subscribe()` has returned, and so has everything that has been started since, over a
connection. -/
def State.Quiet (s : State) : Prop :=
  s.returned = true ∧ s.user = none ∧ s.network = .idle ∧ s.connected = true

instance (s : State) : Decidable s.Quiet := inferInstanceAs (Decidable (_ ∧ _))

/-- What `subscribe()` is for. -/
structure Subscribed (s : State) : Prop where
  sent : s.Quiet → s.Sent
  settled : s.Quiet → s.unacknowledged = [] → s.observer._subscribed = true
    ∧ s.observer._subscribe = false ∧ s.observer._mid = InvalidMessageId

/-- While the user's thread has yet to store that it wishes to be subscribed, `onConnect` does not
find that it does not, and no handler takes the wish back; while it has yet to store the id of its
request, the SUBACK is not compared. -/
def Ordered (s : State) : Event → Prop
  | .network _ =>
    (s.user = some .flag → (s.network = .onConnect → s.observer._subscribe = true)
      ∧ ∀ m, s.network ≠ .clear m)
    ∧ ∀ m, s.user = some (.store m) → s.network ≠ .compare m
  | _ => True

/-! ## What is kept -/

/-- The SUBACK that the network thread deals with. -/
def Network.messageId : Network → Option ℕ
  | .compare m | .clear m | .grant m | .reset m => some m
  | _ => none

/-- The id that the observer has, or is about to have, is one whose SUBACK will find it. -/
def State.Expecting (s : State) : Prop :=
  s.observer._mid ≠ InvalidMessageId ∨ ∃ m, s.user = some (.store m)

structure Ids (s : State) : Prop where
  fresh : ∀ m ∈ s.unacknowledged, m ≠ InvalidMessageId
  nodup : s.unacknowledged.Nodup
  mid : s.observer._mid = InvalidMessageId ∨ s.observer._mid ∈ s.unacknowledged
  store : ∀ m, s.user = some (.store m) → m ∈ s.unacknowledged ∧ s.observer._mid ≠ m
    ∧ s.network ≠ .subscribing (.store m)
  handled : ∀ m, s.user = some (.store m) →
    s.network ≠ .clear m ∧ s.network ≠ .grant m ∧ s.network ≠ .reset m
  subscribing : ∀ m, s.network = .subscribing (.store m) → m ∈ s.unacknowledged
  handling : ∀ m, s.network.messageId = some m → m ∈ s.unacknowledged

structure Threads (s : State) : Prop where
  sent : s.unacknowledged ≠ [] → s.Sent
  before : s.connected = false → ¬ s.Sent
  online : s.network ≠ .idle → s.connected = true
  send : s.user = some .send → s.connected = true
  late : s.network = .onConnect → s.user = some .flag → ¬ s.Sent
  flag : s.network ≠ .subscribing .flag
  reset : ∀ m, s.network = .reset m → s.observer._subscribed = true

/-- Where the wish is. Once it has been stored, a SUBSCRIBE has been sent or `onConnect` will see to
it; a SUBSCRIBE that has been sent has been granted, or the SUBACK that will find its id is yet to
come; and so it is as long as the wish has not been taken back. -/
structure Wish (s : State) : Prop where
  wish : s.returned = true ∨ s.user = some .flag → s.Sent
    ∨ ((s.connected = false ∨ s.network = .onConnect)
      ∧ (s.observer._subscribe = true ∨ s.user = some .flag))
    ∨ s.network = .subscribing .ask ∨ s.network = .subscribing .send
  granted : s.Sent → s.observer._subscribed = true ∨ s.Expecting
    ∨ (∃ m, s.network = .subscribing (.store m))
    ∨ ∃ m, s.network = .clear m ∨ s.network = .grant m
  pending : s.observer._subscribe = true ∨ s.user = some .flag → s.connected = false
    ∨ s.network = .onConnect ∨ (∃ next, s.network = .subscribing next)
    ∨ (∃ m, s.network = .clear m)
    ∨ (s.Expecting ∧ ∀ m, s.network ≠ .grant m ∧ s.network ≠ .reset m)

structure Inv (s : State) : Prop extends Ids s, Threads s, Wish s

theorem Inv.sent_of_mem (h : Inv s) (hm : m ∈ s.unacknowledged) : s.Sent :=
  h.sent (List.ne_nil_of_mem hm)

theorem Inv.connected_of_mem (h : Inv s) (hm : m ∈ s.unacknowledged) : s.connected = true := by
  by_contra hc
  exact h.before (by simpa using hc) (h.sent_of_mem hm)

theorem Inv.call (h : Inv s) (hu : s.user = none) : Inv { s with user := some .ask } :=
  { h with
    store := fun _ => nofun
    handled := fun _ => nofun
    send := nofun
    late := fun _ => nofun
    wish := by simpa [hu, State.Sent] using h.wish
    granted := by simpa [hu, State.Expecting, State.Sent] using h.granted
    pending := by simpa [hu, State.Expecting] using h.pending }

theorem Inv.connect (h : Inv s) (hc : s.connected = false) :
    Inv { s with connected := true, network := .onConnect } := by
  have hn : s.network = .idle := by
    by_contra hn
    simp [h.online hn] at hc
  exact { h with
    store := fun m hu => ⟨(h.store m hu).1, (h.store m hu).2.1, nofun⟩
    handled := fun _ _ => ⟨nofun, nofun, nofun⟩
    subscribing := fun _ => nofun
    handling := fun _ => nofun
    before := nofun
    online := fun _ => rfl
    send := fun _ => rfl
    late := fun _ _ => h.before hc
    flag := nofun
    reset := fun _ => nofun
    wish := fun hw => by
      rcases h.wish hw with hk | ⟨-, hk⟩ | hk | hk
      · exact .inl hk
      · exact .inr (.inl ⟨.inr rfl, hk⟩)
      · simp [hn] at hk
      · simp [hn] at hk
    granted := fun hs => absurd hs (h.before hc)
    pending := fun _ => .inr (.inl rfl) }

theorem Inv.suback (h : Inv s) (hn : s.network = .idle) (hm : m ∈ s.unacknowledged) :
    Inv { s with network := .compare m } :=
  { h with
    store := fun m hu => ⟨(h.store m hu).1, (h.store m hu).2.1, nofun⟩
    handled := fun _ _ => ⟨nofun, nofun, nofun⟩
    subscribing := fun _ => nofun
    handling := fun _ hk => by
      cases hk
      exact hm
    online := fun _ => h.connected_of_mem hm
    late := nofun
    flag := nofun
    reset := fun _ => nofun
    wish := fun _ => .inl (h.sent_of_mem hm)
    granted := by simpa [hn, State.Expecting, State.Sent] using h.granted
    pending := by simpa [hn, State.Expecting] using h.pending }

/-! ### The statements of the user's thread -/

theorem Inv.user_ask_down (h : Inv s) (hc : s.connected = false) :
    Inv { s with user := some .flag } :=
  { h with
    store := fun _ => nofun
    handled := fun _ => nofun
    send := nofun
    late := fun _ _ => h.before hc
    wish := fun _ => .inr (.inl ⟨.inl hc, .inr rfl⟩)
    granted := fun hs => absurd hs (h.before hc)
    pending := fun _ => .inl hc }

theorem Inv.user_ask_up (h : Inv s) (hu : s.user = some .ask) (hc : s.connected = true) :
    Inv { s with user := some .send } :=
  { h with
    store := fun _ => nofun
    handled := fun _ => nofun
    send := fun _ => hc
    late := fun _ => nofun
    wish := by simpa [hu, State.Sent] using h.wish
    granted := by simpa [hu, State.Expecting, State.Sent] using h.granted
    pending := by simpa [hu, State.Expecting] using h.pending }

theorem Ids.fresh_append (h : Ids s) (hf : s.Fresh mid) :
    ∀ m ∈ s.unacknowledged ++ [mid], m ≠ InvalidMessageId := by
  intro m hm
  rcases List.mem_append.mp hm with hm | hm
  · exact h.fresh m hm
  · exact List.mem_singleton.mp hm ▸ hf.1

theorem Ids.nodup_append (h : Ids s) (hf : s.Fresh mid) : (s.unacknowledged ++ [mid]).Nodup :=
  h.nodup.append (List.nodup_singleton mid) (by simpa using hf.2)

theorem Ids.mid_ne (h : Ids s) (hf : s.Fresh mid) : s.observer._mid ≠ mid := by
  rintro rfl
  exact h.mid.elim hf.1 hf.2

theorem Inv.user_send (h : Inv s) (hu : s.user = some .send) (hf : s.Fresh mid) :
    Inv { s with sent := s.sent ++ [.subscribe mid s.observer._topic],
                 unacknowledged := s.unacknowledged ++ [mid], user := some (.store mid) } := by
  have hc := h.send hu
  have hsent : Request.subscribe mid s.observer._topic
      ∈ s.sent ++ [.subscribe mid s.observer._topic] := by simp
  exact { h with
    fresh := h.fresh_append hf
    nodup := h.nodup_append hf
    mid := h.mid.imp_right (List.mem_append_left _)
    store := fun m hm => by
      cases hm
      exact ⟨by simp, h.mid_ne hf, fun hn => hf.2 (h.subscribing mid hn)⟩
    handled := fun m hm => by
      cases hm
      -- a SUBACK that is dealt with is of a request under way
      refine ⟨fun hn => ?_, fun hn => ?_, fun hn => ?_⟩ <;>
        exact hf.2 (h.handling mid (by rw [hn]; rfl))
    subscribing := fun m hn => List.mem_append_left _ (h.subscribing m hn)
    handling := fun m hn => List.mem_append_left _ (h.handling m hn)
    sent := fun _ => ⟨mid, hsent⟩
    before := fun hd => by simp [hc] at hd
    send := nofun
    late := fun _ => nofun
    wish := fun _ => .inl ⟨mid, hsent⟩
    granted := fun _ => .inr (.inl (.inr ⟨mid, rfl⟩))
    pending := fun hw => by
      have hw : s.observer._subscribe = true := by simpa using hw
      rcases h.pending (.inl hw) with hk | hk | hk | hk | ⟨-, hk⟩
      · exact .inl hk
      · exact .inr (.inl hk)
      · exact .inr (.inr (.inl hk))
      · exact .inr (.inr (.inr (.inl hk)))
      · exact .inr (.inr (.inr (.inr ⟨.inr ⟨mid, rfl⟩, hk⟩))) }

theorem Inv.user_store (h : Inv s) (hu : s.user = some (.store m)) :
    Inv { s with observer := { s.observer with _mid := m }, user := none, returned := true } := by
  obtain ⟨hmem, -, -⟩ := h.store m hu
  have hexpecting : m ≠ InvalidMessageId := h.fresh m hmem
  exact { h with
    mid := .inr hmem
    store := nofun
    handled := nofun
    send := nofun
    late := fun _ => nofun
    wish := fun _ => .inl (h.sent_of_mem hmem)
    granted := fun _ => .inr (.inl (.inl hexpecting))
    pending := fun hw => by
      have hw : s.observer._subscribe = true := by simpa using hw
      rcases h.pending (.inl hw) with hk | hk | hk | hk | ⟨-, hk⟩
      · exact .inl hk
      · exact .inr (.inl hk)
      · exact .inr (.inr (.inl hk))
      · exact .inr (.inr (.inr (.inl hk)))
      · exact .inr (.inr (.inr (.inr ⟨.inl hexpecting, hk⟩))) }

theorem Inv.user_flag (h : Inv s) (hu : s.user = some .flag) :
    Inv { s with observer := { s.observer with _subscribe := true }, user := none,
                 returned := true } :=
  { h with
    store := nofun
    handled := nofun
    send := nofun
    late := fun _ => nofun
    wish := fun _ => by
      rcases h.wish (.inr hu) with hk | ⟨hk, -⟩ | hk
      · exact .inl hk
      · exact .inr (.inl ⟨hk, .inl rfl⟩)
      · exact .inr (.inr hk)
    granted := by simpa [hu, State.Expecting, State.Sent] using h.granted
    pending := fun _ => by simpa [hu, State.Expecting] using h.pending (.inr hu) }

theorem Inv.user (h : Inv s) {next : Subscribing} {after : Option Subscribing}
    (hu : s.user = some next) (hf : s.Fresh mid) (ht : s.advance mid next = (t, after)) :
    Inv { t with user := after, returned := s.returned || after.isNone } := by
  cases next with
  | ask =>
    cases ht
    rcases hc : s.connected with _ | _
    · simpa [hc] using h.user_ask_down hc
    · simpa [hc] using h.user_ask_up hu hc
  | send =>
    cases ht
    simpa using h.user_send hu hf
  | store m =>
    cases ht
    simpa using h.user_store hu
  | flag =>
    cases ht
    simpa using h.user_flag hu

/-! ### The statements of the network thread -/

theorem Inv.onConnect (h : Inv s) (hn : s.network = .onConnect)
    (hw : s.user = some .flag → s.observer._subscribe = true) :
    Inv (s.handle mid .onConnect) := by
  have hc : s.connected = true := h.online (by simp [hn])
  rcases hs : s.observer._subscribe with _ | _
  · have hu : s.user ≠ some .flag := fun hu => by simpa [hs] using hw hu
    simp only [State.handle, hs]
    exact { h with
      store := fun m hu => ⟨(h.store m hu).1, (h.store m hu).2.1, nofun⟩
      handled := fun _ _ => ⟨nofun, nofun, nofun⟩
      subscribing := fun _ => nofun
      handling := fun _ => nofun
      online := fun _ => hc
      late := nofun
      flag := nofun
      reset := fun _ => nofun
      wish := fun hk => by
        have hk := h.wish hk
        simp [hn, hs, hu] at hk
        exact .inl hk
      granted := by simpa [hn, State.Expecting, State.Sent] using h.granted
      pending := fun hk => by simp [hs, hu] at hk }
  · simp only [State.handle, hs]
    exact { h with
      store := fun m hu => ⟨(h.store m hu).1, (h.store m hu).2.1, nofun⟩
      handled := fun _ _ => ⟨nofun, nofun, nofun⟩
      subscribing := fun _ => nofun
      handling := fun _ => nofun
      online := fun _ => hc
      late := nofun
      flag := nofun
      reset := fun _ => nofun
      wish := fun _ => .inr (.inr (.inl rfl))
      granted := by simpa [hn, State.Expecting, State.Sent] using h.granted
      pending := fun _ => .inr (.inr (.inl ⟨_, rfl⟩)) }

theorem Inv.subscribing_ask (h : Inv s) (hn : s.network = .subscribing .ask) :
    Inv { s with network := .subscribing .send } :=
  { h with
    store := fun m hu => ⟨(h.store m hu).1, (h.store m hu).2.1, nofun⟩
    handled := fun _ _ => ⟨nofun, nofun, nofun⟩
    subscribing := fun _ => nofun
    handling := fun _ => nofun
    online := fun _ => h.online (by simp [hn])
    late := nofun
    flag := nofun
    reset := fun _ => nofun
    wish := fun _ => .inr (.inr (.inr rfl))
    granted := by simpa [hn, State.Expecting, State.Sent] using h.granted
    pending := fun _ => .inr (.inr (.inl ⟨_, rfl⟩)) }

theorem Inv.subscribing_send (h : Inv s) (hn : s.network = .subscribing .send)
    (hf : s.Fresh mid) :
    Inv { s with sent := s.sent ++ [.subscribe mid s.observer._topic],
                 unacknowledged := s.unacknowledged ++ [mid],
                 network := .subscribing (.store mid) } := by
  have hc := h.online (by simp [hn])
  have hsent : Request.subscribe mid s.observer._topic
      ∈ s.sent ++ [.subscribe mid s.observer._topic] := by simp
  exact { h with
    fresh := h.fresh_append hf
    nodup := h.nodup_append hf
    mid := h.mid.imp_right (List.mem_append_left _)
    store := fun m hu => by
      obtain ⟨hmem, hne, -⟩ := h.store m hu
      refine ⟨List.mem_append_left _ hmem, hne, fun hk => hf.2 ?_⟩
      cases hk
      exact hmem
    handled := fun _ _ => ⟨nofun, nofun, nofun⟩
    subscribing := fun m hk => by
      cases hk
      simp
    handling := fun _ => nofun
    sent := fun _ => ⟨mid, hsent⟩
    before := fun hd => by simp [hc] at hd
    online := fun _ => hc
    late := nofun
    flag := nofun
    reset := fun _ => nofun
    wish := fun _ => .inl ⟨mid, hsent⟩
    granted := fun _ => .inr (.inr (.inl ⟨mid, rfl⟩))
    pending := fun _ => .inr (.inr (.inl ⟨_, rfl⟩)) }

theorem Inv.subscribing_store (h : Inv s) (hn : s.network = .subscribing (.store m)) :
    Inv { s with observer := { s.observer with _mid := m }, network := .idle } := by
  have hmem := h.subscribing m hn
  have hexpecting : m ≠ InvalidMessageId := h.fresh m hmem
  exact { h with
    mid := .inr hmem
    store := fun m' hu => by
      obtain ⟨hmem', -, hne⟩ := h.store m' hu
      exact ⟨hmem', fun heq => hne (heq ▸ hn), nofun⟩
    handled := fun _ _ => ⟨nofun, nofun, nofun⟩
    subscribing := fun _ => nofun
    handling := fun _ => nofun
    online := fun _ => h.connected_of_mem hmem
    late := nofun
    flag := nofun
    reset := fun _ => nofun
    wish := fun _ => .inl (h.sent_of_mem hmem)
    granted := fun _ => .inr (.inl (.inl hexpecting))
    pending := fun _ => .inr (.inr (.inr (.inr ⟨.inl hexpecting, fun _ => ⟨nofun, nofun⟩⟩))) }

theorem Inv.subscribing_step (h : Inv s) {next : Subscribing}
    (hn : s.network = .subscribing next) (hf : s.Fresh mid) :
    Inv (s.handle mid (.subscribing next)) := by
  cases next with
  | ask =>
    have hc : s.connected = true := h.online (by simp [hn])
    simpa [State.handle, State.advance, hc] using h.subscribing_ask hn
  | send => exact h.subscribing_send hn hf
  | store m => exact h.subscribing_store hn
  | flag => exact absurd hn h.flag

/-- The id is the observer's, and the user's thread is not about to store it. -/
theorem Inv.compare_eq (h : Inv s) (hn : s.network = .compare m) (hm : m = s.observer._mid) :
    Inv { s with network := .clear m } := by
  have hmem := h.handling m (by rw [hn]; rfl)
  exact { h with
    store := fun m hu => ⟨(h.store m hu).1, (h.store m hu).2.1, nofun⟩
    handled := fun m' hu => by
      refine ⟨fun hk => (h.store m' hu).2.1 ?_, nofun, nofun⟩
      cases hk
      exact hm.symm
    subscribing := fun _ => nofun
    handling := fun _ hk => by
      cases hk
      exact hmem
    online := fun _ => h.connected_of_mem hmem
    late := nofun
    flag := nofun
    reset := fun _ => nofun
    wish := fun _ => .inl (h.sent_of_mem hmem)
    granted := fun _ => .inr (.inr (.inr ⟨m, .inl rfl⟩))
    pending := fun _ => .inr (.inr (.inr (.inl ⟨m, rfl⟩))) }

theorem Inv.compare_ne (h : Inv s) (hn : s.network = .compare m) (hm : m ≠ s.observer._mid)
    (ho : s.user ≠ some (.store m)) : Inv (s.acknowledged m) := by
  have hmem := h.handling m (by rw [hn]; rfl)
  exact { h with
    fresh := fun m hk => h.fresh m (List.mem_of_mem_erase hk)
    nodup := h.nodup.erase m
    mid := h.mid.imp_right (List.mem_erase_of_ne (Ne.symm hm)).mpr
    store := fun m' hu => by
      obtain ⟨hmem', hne, -⟩ := h.store m' hu
      have hne' : m' ≠ m := fun heq => ho (heq ▸ hu)
      exact ⟨(List.mem_erase_of_ne hne').mpr hmem', hne, nofun⟩
    handled := fun _ _ => ⟨nofun, nofun, nofun⟩
    subscribing := fun _ => nofun
    handling := fun _ => nofun
    sent := fun _ => h.sent_of_mem hmem
    online := fun hk => absurd rfl hk
    late := nofun
    flag := nofun
    reset := fun _ => nofun
    wish := fun _ => .inl (h.sent_of_mem hmem)
    granted := by simpa [hn, State.Expecting, State.Sent, State.acknowledged] using h.granted
    pending := by simpa [hn, State.Expecting, State.acknowledged] using h.pending }

theorem Inv.clear (h : Inv s) (hn : s.network = .clear m) (ho : s.user ≠ some .flag) :
    Inv { s with observer := { s.observer with _subscribe := false }, network := .grant m } := by
  have hmem := h.handling m (by rw [hn]; rfl)
  exact { h with
    store := fun m hu => ⟨(h.store m hu).1, (h.store m hu).2.1, nofun⟩
    handled := fun m' hu => by
      refine ⟨nofun, fun hk => (h.handled m' hu).1 ?_, nofun⟩
      cases hk
      exact hn
    subscribing := fun _ => nofun
    handling := fun _ hk => by
      cases hk
      exact hmem
    online := fun _ => h.connected_of_mem hmem
    late := nofun
    flag := nofun
    reset := fun _ => nofun
    wish := fun _ => .inl (h.sent_of_mem hmem)
    granted := fun _ => .inr (.inr (.inr ⟨m, .inr rfl⟩))
    pending := fun hw => by simp [ho] at hw }

/-- Nobody wishes to be subscribed while the last statements of the handler run. -/
theorem Inv.no_wish (h : Inv s) (hn : s.network = .grant m ∨ s.network = .reset m) :
    ¬ (s.observer._subscribe = true ∨ s.user = some .flag) := by
  intro hw
  have hc : s.connected = true := h.online (by rcases hn with hn | hn <;> simp [hn])
  rcases h.pending hw with hk | hk | ⟨next, hk⟩ | ⟨m', hk⟩ | ⟨-, hk⟩
  · simp [hc] at hk
  · simp [hk] at hn
  · simp [hk] at hn
  · simp [hk] at hn
  · exact hn.elim (hk m).1 (hk m).2

theorem Inv.grant (h : Inv s) (hn : s.network = .grant m) :
    Inv { s with observer := { s.observer with _subscribed := true }, network := .reset m } := by
  have hmem := h.handling m (by rw [hn]; rfl)
  exact { h with
    store := fun m hu => ⟨(h.store m hu).1, (h.store m hu).2.1, nofun⟩
    handled := fun m' hu => by
      refine ⟨nofun, nofun, fun hk => (h.handled m' hu).2.1 ?_⟩
      cases hk
      exact hn
    subscribing := fun _ => nofun
    handling := fun _ hk => by
      cases hk
      exact hmem
    online := fun _ => h.connected_of_mem hmem
    late := nofun
    flag := nofun
    reset := fun _ _ => rfl
    wish := fun _ => .inl (h.sent_of_mem hmem)
    granted := fun _ => .inl rfl
    pending := fun hw => absurd hw (h.no_wish (.inl hn)) }

theorem Inv.reset_step (h : Inv s) (hn : s.network = .reset m) :
    Inv (State.acknowledged
      { s with observer := { s.observer with _mid := InvalidMessageId } } m) := by
  have hmem := h.handling m (by rw [hn]; rfl)
  exact { h with
    fresh := fun m hk => h.fresh m (List.mem_of_mem_erase hk)
    nodup := h.nodup.erase m
    mid := .inl rfl
    store := fun m' hu => by
      obtain ⟨hmem', -, -⟩ := h.store m' hu
      have hne : m' ≠ m := fun heq => (h.handled m' hu).2.2 (heq ▸ hn)
      exact ⟨(List.mem_erase_of_ne hne).mpr hmem', (h.fresh m' hmem').symm, nofun⟩
    handled := fun _ _ => ⟨nofun, nofun, nofun⟩
    subscribing := fun _ => nofun
    handling := fun _ => nofun
    sent := fun _ => h.sent_of_mem hmem
    online := fun hk => absurd rfl hk
    late := nofun
    flag := nofun
    reset := fun _ => nofun
    wish := fun _ => .inl (h.sent_of_mem hmem)
    granted := fun _ => .inl (h.reset m hn)
    pending := fun hw => absurd hw (h.no_wish (.inr hn)) }

theorem Inv.network (h : Inv s) (hn : s.network ≠ .idle) (hf : s.Fresh mid)
    (ho : Ordered s (.network mid)) : Inv (s.handle mid s.network) := by
  obtain ⟨hlate, hcompare⟩ := ho
  rcases hk : s.network with _ | _ | next | m | m | m | m
  · exact absurd hk hn
  · exact h.onConnect hk fun hu => (hlate hu).1 hk
  · exact h.subscribing_step hk hf
  · simp only [State.handle]
    split_ifs with hm
    · exact h.compare_eq hk hm
    · exact h.compare_ne hk hm fun hu => hcompare m hu hk
  · exact h.clear hk fun hu => (hlate hu).2 m hk
  · exact h.grant hk
  · exact h.reset_step hk

/-! ### Every step -/

theorem Inv.step (h : Inv s) (ho : Ordered s e) (hs : Step s e t) : Inv t := by
  cases hs with
  | call hu => exact h.call hu
  | user mid hu hf ht => exact h.user hu hf ht
  | connect hc => exact h.connect hc
  | suback m hn hm => exact h.suback hn hm
  | network mid hn hf => exact h.network hn hf ho

theorem inv_start (topic : String) (accessor : Sensor) : Inv (start topic accessor) := by
  refine ⟨⟨?_, ?_, ?_, ?_, ?_, ?_, ?_⟩, ⟨?_, ?_, ?_, ?_, ?_, ?_, ?_⟩, ?_, ?_, ?_⟩ <;>
    simp [start, SensorDataObserver.create, SensorDataObserver.setUp, Network.messageId, State.Sent]

theorem inv {s : State} (h : (system topic accessor).ReachableBy Ordered s) : Inv s := by
  refine h.invariant (fun s hs => ?_) fun s e t _ hi ho hs => hi.step ho hs
  obtain rfl : s = start topic accessor := hs
  exact inv_start topic accessor

theorem Inv.sent_of_quiet (h : Inv s) (hq : s.Quiet) : s.Sent := by
  obtain ⟨hr, hu, hn, hc⟩ := hq
  rcases h.wish (.inl hr) with hsent | ⟨hk | hk, -⟩ | hk | hk
  · exact hsent
  · rw [hc] at hk
    cases hk
  all_goals
    rw [hn] at hk
    cases hk

theorem Inv.subscribed (h : Inv s) : Subscribed s := by
  refine ⟨h.sent_of_quiet, fun hq hnone => ?_⟩
  have hsent := h.sent_of_quiet hq
  obtain ⟨-, hu, hn, hc⟩ := hq
  have hmid : s.observer._mid = InvalidMessageId := h.mid.resolve_right (by simp [hnone])
  have hexpecting : ¬ s.Expecting := by
    rintro (hne | ⟨m, hm⟩)
    · exact hne hmid
    · simp [hu] at hm
  refine ⟨?_, ?_, hmid⟩
  · rcases h.granted hsent with hs | hs | ⟨m, hm⟩ | ⟨m, hm | hm⟩
    · exact hs
    · exact absurd hs hexpecting
    all_goals simp [hn] at hm
  · by_contra hs
    rcases h.pending (.inl (by simpa using hs)) with hk | hk | ⟨p, hk⟩ | ⟨m, hk⟩ | ⟨hk, -⟩
    · simp [hc] at hk
    · simp [hn] at hk
    · simp [hn] at hk
    · simp [hn] at hk
    · exact hexpecting hk

/-! ## The other orders -/

/-- The SUBACKs under way come in, and none of them has the observer's id. -/
theorem exists_drained (topic : String) (accessor : Sensor) : ∀ (l : List ℕ) (s : State),
    s.unacknowledged = l → s.network = .idle → s.observer._mid ∉ l →
      ∃ es, (system topic accessor).Run (fun _ _ => True) s es { s with unacknowledged := [] }
  | [], s, hl, _, _ => by
    rw [← hl]
    exact ⟨[], .nil s⟩
  | m :: l, s, hl, hn, hmid => by
    obtain ⟨mid, hf⟩ := exists_fresh s
    have hne : m ≠ s.observer._mid := fun heq => hmid (heq ▸ List.mem_cons_self)
    have h1 := System.Run.single (S := system topic accessor) (C := fun _ _ => True) trivial
      (Step.suback m hn (hl ▸ List.mem_cons_self))
    have h2 := h1.snoc trivial (Step.network mid (by simp) hf)
    simp only [State.handle, if_neg hne, State.acknowledged, hl, List.erase_cons_head] at h2
    obtain ⟨es, h3⟩ := exists_drained topic accessor l { s with unacknowledged := l } rfl hn
      fun h => hmid (List.mem_cons_of_mem _ h)
    rw [← hn] at h2
    exact ⟨_, h2.append h3⟩

/-- From where both threads are at rest over a connection, an observer that does not look as it
should, or has never asked, will not change any more. -/
theorem exists_broken {es : List Event}
    (hrun : (system topic accessor).Run (fun _ _ => True) t es s) (hu : s.user = none)
    (hr : s.returned = true) (hn : s.network = .idle)
    (hc : s.connected = true) (hmid : s.observer._mid ∉ s.unacknowledged)
    (hbad : s.observer._subscribe = true ∨ s.observer._mid ≠ InvalidMessageId) :
    ∃ es u, (system topic accessor).Run (fun _ _ => True) t es u ∧ ¬ Subscribed u := by
  obtain ⟨es', hes⟩ := exists_drained topic accessor s.unacknowledged s rfl hn hmid
  refine ⟨_, _, hrun.append hes, fun hsub => ?_⟩
  obtain ⟨-, hs, hm⟩ := hsub.settled ⟨hr, hu, hn, hc⟩ rfl
  rcases hbad with hbad | hbad
  · simp [hbad] at hs
  · exact hbad hm

/-- The wish is stored after `onConnect` has found none. -/
theorem Inv.broken_late (h : Inv s) (hu : s.user = some .flag) (hk : s.network = .onConnect)
    (hw : s.observer._subscribe = false) :
    ∃ es u, (system topic accessor).Run (fun _ _ => True) (s.handle mid .onConnect) es u
      ∧ ¬ Subscribed u := by
  have hc : s.connected = true := h.online (by simp [hk])
  obtain ⟨mid', hf⟩ := exists_fresh (s.handle mid .onConnect)
  have h1 := System.Run.single (S := system topic accessor) (C := fun _ _ => True) trivial
    (Step.user (s := s.handle mid .onConnect) mid' hu hf rfl)
  refine ⟨_, _, h1, fun hsub => ?_⟩
  have hsent := hsub.sent ⟨by simp, rfl, by simp [State.handle, hw], by simp [State.handle, hc]⟩
  refine h.late hk hu ?_
  simpa [State.Sent, State.advance, State.handle] using hsent

/-- The wish is stored after the handler of a SUBACK has taken it back. -/
theorem Inv.broken_clear (h : Inv s) (hu : s.user = some .flag) (hk : s.network = .clear m) :
    ∃ es u, (system topic accessor).Run (fun _ _ => True) (s.handle mid (.clear m)) es u
      ∧ ¬ Subscribed u := by
  have hc : s.connected = true := h.online (by simp [hk])
  obtain ⟨mid', hf⟩ := exists_fresh s
  have h1 := System.Run.single (S := system topic accessor) (C := fun _ _ => True) trivial
    (Step.network (s := s.handle mid (.clear m)) mid' (by simp [State.handle]) hf)
  have h2 := h1.snoc trivial (Step.network mid' (by simp [State.handle]) hf)
  have h3 := h2.snoc trivial (Step.user mid' hu ⟨hf.1, fun hmem =>
    hf.2 (List.mem_of_mem_erase hmem)⟩ rfl)
  exact exists_broken h3 rfl (by simp) rfl hc
    (fun hmem => h.fresh _ (List.mem_of_mem_erase hmem) rfl) (.inl rfl)

/-- The id is stored after its SUBACK has been compared with another. -/
theorem Inv.broken_compare (h : Inv s) (hu : s.user = some (.store m))
    (hk : s.network = .compare m) :
    ∃ es u, (system topic accessor).Run (fun _ _ => True) (s.handle mid (.compare m)) es u
      ∧ ¬ Subscribed u := by
  have hc : s.connected = true := h.online (by simp [hk])
  obtain ⟨hmem, hne, -⟩ := h.store m hu
  obtain ⟨mid', hf⟩ := exists_fresh s
  rw [State.handle, if_neg (Ne.symm hne)]
  have h1 := System.Run.single (S := system topic accessor) (C := fun _ _ => True) trivial
    (Step.user (s := s.acknowledged m) mid' hu ⟨hf.1, fun hmem =>
      hf.2 (List.mem_of_mem_erase hmem)⟩ rfl)
  exact exists_broken h1 rfl (by simp) rfl hc h.nodup.not_mem_erase (.inr (h.fresh m hmem))

/-- In any other order, the user's thread and the network's can go on so that the observer is not
subscribed in the end. -/
theorem Inv.broken (h : Inv s) (hs : Step s (.network mid) t) (ho : ¬ Ordered s (.network mid)) :
    ∃ es u, (system topic accessor).Run (fun _ _ => True) t es u ∧ ¬ Subscribed u := by
  obtain rfl : t = s.handle mid s.network := by
    cases hs
    rfl
  unfold Ordered at ho
  rw [not_and_or] at ho
  rcases ho with ho | ho
  · push Not at ho
    obtain ⟨hu, ho⟩ := ho
    by_cases hk : s.network = .onConnect ∧ s.observer._subscribe = false
    · rw [hk.1]
      exact h.broken_late hu hk.1 hk.2
    · obtain ⟨m, hm⟩ := ho fun hk' => by simpa [hk'] using hk
      rw [hm]
      exact h.broken_clear hu hm
  · push Not at ho
    obtain ⟨m, hu, hm⟩ := ho
    rw [hm]
    exact h.broken_compare hu hm

/-- `subscribe()` does what it is for in every run that keeps to the order, and after every step
that does not keep to it, it may never. -/
theorem subscribe_ordered (topic : String) (accessor : Sensor) {s : State}
    (h : (system topic accessor).ReachableBy Ordered s) :
    Subscribed s ∧ ∀ mid t, Step s (.network mid) t → ¬ Ordered s (.network mid) →
      ∃ es u, (system topic accessor).Run (fun _ _ => True) t es u ∧ ¬ Subscribed u :=
  ⟨(inv h).subscribed, fun _ _ hs ho => (inv h).broken hs ho⟩

/-- The client is connected between the question whether it is and the store of the wish: nobody
asks for the subscription. -/
theorem subscribe_late : ¬ ∀ (topic : String) (accessor : Sensor) (s : State),
    (system topic accessor).Reachable s → Subscribed s := by
  intro h
  have h0 : (system "gas" .gas).Reachable (start "gas" .gas) := .init rfl
  have h1 := h0.next (.call rfl)
  have h2 := h1.next (.user 1 rfl (by decide) rfl)
  have h3 := h2.next (.connect rfl)
  have h4 := h3.next (.network 1 (by decide) (by decide))
  have h5 := h4.next (.user 1 rfl (by decide) rfl)
  obtain ⟨mid, hsent⟩ := (h "gas" .gas _ h5).sent (by decide)
  cases hsent

/-- The client is connected after the wish has been stored: `onConnect` sends the SUBSCRIBE, and its
SUBACK is awaited. -/
theorem subscribe_ordered_waited : ∃ s : State, s.Quiet ∧ s.unacknowledged = []
    ∧ s.observer._subscribed = true := by
  have h0 : (system "gas" .gas).ReachableBy Ordered (start "gas" .gas) := .init rfl
  have h1 := h0.step (by trivial) (.call rfl)
  have h2 := h1.step (by trivial) (.user 1 rfl (by decide) rfl)
  have h3 := h2.step (by trivial) (.user 1 rfl (by decide) rfl)
  have h4 := h3.step (by trivial) (.connect rfl)
  have h5 := h4.step (by exact ⟨nofun, nofun⟩) (.network 1 (by decide) (by decide))
  have h6 := h5.step (by exact ⟨nofun, nofun⟩) (.network 1 (by decide) (by decide))
  have h7 := h6.step (by exact ⟨nofun, nofun⟩) (.network 1 (by decide) (by decide))
  have h8 := h7.step (by exact ⟨nofun, nofun⟩) (.network 2 (by decide) (by decide))
  have h9 := h8.step (by trivial) (.suback 1 rfl (by decide))
  have h10 := h9.step (by exact ⟨nofun, nofun⟩) (.network 2 (by decide) (by decide))
  have h11 := h10.step (by exact ⟨nofun, nofun⟩) (.network 2 (by decide) (by decide))
  have h12 := h11.step (by exact ⟨nofun, nofun⟩) (.network 2 (by decide) (by decide))
  have h13 := h12.step (by exact ⟨nofun, nofun⟩) (.network 2 (by decide) (by decide))
  have hquiet := (subscribe_ordered "gas" .gas h13).1.settled (by decide) (by decide)
  exact ⟨_, by decide, by decide, hquiet.1⟩

end Interleaving

end SensorityCollector
