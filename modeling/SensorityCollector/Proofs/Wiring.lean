import SensorityCollector.Wiring

/-!
# Slots, calls and emissions

Between two calls an observer has one slot in each signal exactly if the last call on it was
`setUp()`. So each emission calls it once, in the order in which the slots were connected, unless it
is called in between. After `tearDown()` no handler begins but the one that has been picked, and
none runs for an observer that is destructed.
-/

namespace SensorityCollector

namespace Wiring

open Transition Signals

variable {α : Type}

theorem observer_setUp {o : α} {st : Statement α} (h : st ∈ Wiring.setUp o) : st.observer = o := by
  simp only [Wiring.setUp, List.mem_cons, List.not_mem_nil, or_false] at h
  rcases h with rfl | rfl | rfl | rfl | rfl <;> rfl

theorem observer_tearDown {o : α} {st : Statement α} (h : st ∈ Wiring.tearDown o) :
    st.observer = o := by
  simp only [Wiring.tearDown, List.mem_cons, List.not_mem_nil, or_false] at h
  rcases h with rfl | rfl | rfl | rfl | rfl <;> rfl

section Statements

variable [DecidableEq α]

/-- What a statement makes of whether the slot is connected. -/
def Statement.effect (o : α) (k : Kind) (b : Bool) : Statement α → Bool
  | .connect k' o' => if k' = k ∧ o' = o then true else b
  | .disconnect k' o' => if k' = k ∧ o' = o then false else b

theorem foldl_setUp (o : α) (k : Kind) : ∀ (os : List α) (b : Bool),
    (os.flatMap Wiring.setUp).foldl (Statement.effect o k) b = if o ∈ os then true else b
  | [], b => by simp
  | o' :: os, b => by
    have hone : (Wiring.setUp o').foldl (Statement.effect o k) b = if o' = o then true else b := by
      by_cases ho : o' = o <;> cases k <;> simp [Wiring.setUp, Statement.effect, ho]
    rw [List.flatMap_cons, List.foldl_append, hone, foldl_setUp o k os]
    by_cases ho : o' = o
    · simp [ho]
    · simp [ho, Ne.symm ho]

theorem foldl_tearDown (o : α) (k : Kind) : ∀ (os : List α) (b : Bool),
    (os.flatMap Wiring.tearDown).foldl (Statement.effect o k) b = if o ∈ os then false else b
  | [], b => by simp
  | o' :: os, b => by
    have hone : (Wiring.tearDown o').foldl (Statement.effect o k) b
        = if o' = o then false else b := by
      by_cases ho : o' = o <;> cases k <;> simp [Wiring.tearDown, Statement.effect, ho]
    rw [List.flatMap_cons, List.foldl_append, hone, foldl_tearDown o k os]
    by_cases ho : o' = o
    · simp [ho]
    · simp [ho, Ne.symm ho]

/-- Whether the slot will be connected once the call under way has returned. -/
def State.expected (s : State α) (o : α) (k : Kind) : Bool :=
  s.todo.foldl (Statement.effect o k) (s.connected o k)

theorem connected_iff {s : State α} {o : α} {k : Kind} :
    s.connected o k = true
      ↔ ∃ slot ∈ (s.signals k).slots, slot.target = o ∧ s.connections o k = some slot.id := by
  simp [State.connected]

end Statements

variable {s t : State α} {e : Event α}

/-- Each slot is the one that its observer's connection refers to or that is to be assigned, and
none is referred to by two. -/
structure Inv (s : State α) : Prop where
  slot : ∀ k, ∀ slot ∈ (s.signals k).slots, s.connections slot.target k = some slot.id
    ∨ s.assigned = some slot.id ∧ s.todo.head? = some (.connect k slot.target)
  lt_next : ∀ o k id, s.connections o k = some id → id < (s.signals k).next
  target : ∀ o k, ∀ slot ∈ (s.signals k).slots, s.connections o k = some slot.id → slot.target = o
  assigned : ∀ id, s.assigned = some id → ∃ k o, s.todo.head? = some (.connect k o)
    ∧ ⟨id, o⟩ ∈ (s.signals k).slots ∧ ∀ o', s.connections o' k ≠ some id

theorem inv_start : Inv (start : State α) where
  slot k := by simp [start, Signal.empty]
  lt_next := by simp [start]
  target := by simp [start]
  assigned := by simp [start]

theorem Inv.unassigned (hi : Inv s) (h : ∀ k o, s.todo.head? ≠ some (.connect k o)) :
    s.assigned = none := by
  rcases ha : s.assigned with _ | id
  · rfl
  · obtain ⟨k, o, ht, -⟩ := hi.assigned id ha
    exact absurd ht (h k o)

theorem Inv.head (hi : Inv s) {k : Kind} {o : α} {id : ℕ}
    (ht : s.todo.head? = some (.connect k o)) (ha : s.assigned = some id) :
    ⟨id, o⟩ ∈ (s.signals k).slots ∧ ∀ o', s.connections o' k ≠ some id := by
  obtain ⟨k', o', ht', hslot, hother⟩ := hi.assigned id ha
  rw [ht] at ht'
  simp only [Option.some.injEq, Statement.connect.injEq] at ht'
  obtain ⟨rfl, rfl⟩ := ht'
  exact ⟨hslot, hother⟩

/-- Nothing of the call under way is about the observer. -/
def State.Quiet (s : State α) (o : α) : Prop := ∀ st ∈ s.todo, st.observer ≠ o

theorem Inv.slot_quiet (hi : Inv s) {o : α} (h : s.Quiet o) {k : Kind} {slot : Slot α}
    (hslot : slot ∈ (s.signals k).slots) (ho : slot.target = o) :
    s.connections o k = some slot.id := by
  subst ho
  refine (hi.slot k slot hslot).resolve_right fun hhead => ?_
  exact h _ (List.mem_of_mem_head? hhead.2) rfl

theorem head_tail {l : List (Statement α)} {st : Statement α} (h : l.head? = some st) :
    l = st :: l.tail := by
  rcases l with _ | ⟨st', rest⟩
  · simp at h
  · simpa using h

theorem mem_connect {k k' : Kind} {o : α} {slot : Slot α} :
    slot ∈ ((s.connect k o).signals k').slots
      ↔ slot ∈ (s.signals k').slots ∨ k' = k ∧ slot = ⟨(s.signals k).next, o⟩ := by
  unfold State.connect
  by_cases hk : k' = k
  · subst hk
    simp
  · simp [hk]

theorem next_connect (k k' : Kind) (o : α) :
    (s.signals k').next ≤ ((s.connect k o).signals k').next := by
  unfold State.connect
  by_cases hk : k' = k
  · subst hk
    simp
  · simp [hk]

theorem mem_disconnect {k k' : Kind} {o : α} {slot : Slot α} :
    slot ∈ ((s.disconnect k o).signals k').slots
      ↔ slot ∈ (s.signals k').slots ∧ (k' = k → some slot.id ≠ s.connections o k) := by
  unfold State.disconnect
  by_cases hk : k' = k
  · subst hk
    simp
  · simp [hk]

theorem next_disconnect (k k' : Kind) (o : α) :
    ((s.disconnect k o).signals k').next = (s.signals k').next := by
  unfold State.disconnect
  by_cases hk : k' = k
  · subst hk
    simp
  · simp [hk]

theorem inv_connect (hi : Inv s) {k : Kind} {o : α} (ht : s.todo.head? = some (.connect k o))
    (ha : s.assigned = none) : Inv (s.connect k o) where
  slot k' slot hslot := by
    rcases mem_connect.1 hslot with h | ⟨rfl, rfl⟩
    · exact .inl ((hi.slot k' slot h).resolve_right fun h => by simp [ha] at h)
    · exact .inr ⟨rfl, ht⟩
  lt_next o' k' id h := (hi.lt_next o' k' id h).trans_le (next_connect k k' o)
  target o' k' slot hslot h := by
    rcases mem_connect.1 hslot with h' | ⟨rfl, rfl⟩
    · exact hi.target o' k' slot h' h
    · exact absurd (hi.lt_next o' k' _ h) (lt_irrefl _)
  assigned id h := by
    obtain rfl : (s.signals k).next = id := by simpa [State.connect] using h
    refine ⟨k, o, ht, mem_connect.2 (.inr ⟨rfl, rfl⟩), fun o' ho' => ?_⟩
    exact lt_irrefl _ (hi.lt_next o' k _ ho')

/-- What `disconnect()` keeps, unless a slot is to be assigned. -/
theorem inv_disconnect (hi : Inv s) (k : Kind) (o : α) : Inv (s.disconnect k o) where
  slot k' slot h := hi.slot k' slot (mem_disconnect.1 h).1
  lt_next o' k' id h := by
    rw [next_disconnect]
    exact hi.lt_next o' k' id h
  target o' k' slot h h' := hi.target o' k' slot (mem_disconnect.1 h).1 h'
  assigned id h := by
    obtain ⟨k', o', ht, hslot, hother⟩ := hi.assigned id h
    exact ⟨k', o', ht, mem_disconnect.2 ⟨hslot, fun hk => hk ▸ (hother o).symm⟩, hother⟩

/-- Only the statement under way is about the slot that is to be assigned. -/
theorem Inv.of_unassigned (hi : Inv s) (ha : s.assigned = none) (todo : List (Statement α)) :
    Inv { s with todo := todo } where
  slot k slot h := .inl ((hi.slot k slot h).resolve_right fun h => by simp [ha] at h)
  lt_next := hi.lt_next
  target := hi.target
  assigned id h := by simp [show s.assigned = some id from h] at ha

variable [LinearOrder α]

theorem connections_assign {k k' : Kind} {o o' : α} {id : ℕ} :
    (s.assign k o id).connections o' k'
      = if k' = k ∧ o' = o then some id else s.connections o' k' := by
  unfold State.assign
  by_cases ho : o' = o
  · subst ho
    by_cases hk : k' = k <;> simp [hk]
  · simp [ho]

theorem inv_assign (hi : Inv s) {k : Kind} {o : α} {id : ℕ}
    (ht : s.todo.head? = some (.connect k o)) (ha : s.assigned = some id) :
    Inv (s.assign k o id) := by
  obtain ⟨hslot, hother⟩ := hi.head ht ha
  refine ⟨fun k' slot h => .inl ?_, fun o' k' id' h => ?_, fun o' k' slot h h' => ?_,
    by simp [State.assign]⟩
  · obtain ⟨hmem, hne⟩ := mem_disconnect.1 h
    rw [connections_assign]
    split
    next heq =>
      obtain ⟨rfl, rfl⟩ := heq
      rcases hi.slot k' slot hmem with hc | ⟨hc, -⟩
      · exact absurd hc.symm (hne rfl)
      · rw [← hc, ha]
    next hneq =>
      refine (hi.slot k' slot hmem).resolve_right ?_
      rintro ⟨-, ht'⟩
      rw [ht] at ht'
      simp only [Option.some.injEq, Statement.connect.injEq] at ht'
      exact hneq ⟨ht'.1.symm, ht'.2.symm⟩
  · rw [connections_assign] at h
    show id' < ((s.disconnect k o).signals k').next
    rw [next_disconnect]
    split at h
    next heq =>
      obtain ⟨rfl, rfl⟩ := heq
      obtain rfl : id = id' := by simpa using h
      exact (s.signals k').lt_next _ hslot
    next => exact hi.lt_next o' k' id' h
  · obtain ⟨hmem, -⟩ := mem_disconnect.1 h
    rw [connections_assign] at h'
    split at h'
    next heq =>
      obtain ⟨rfl, rfl⟩ := heq
      have := Signal.eq_of_id hmem hslot (by simpa using h'.symm)
      rw [this]
    next => exact hi.target o' k' slot hmem h'

theorem inv_step (hi : Inv s) (hs : Step s e t) : Inv t := by
  cases hs with
  | setUp h | tearDown h => exact hi.of_unassigned (hi.unassigned (by simp [h])) _
  | connect ht ha => exact inv_connect hi ht ha
  | assign ht ha => exact inv_assign hi ht ha
  | @disconnect k o ht =>
    exact (inv_disconnect hi k o).of_unassigned (hi.unassigned (by simp [ht])) _
  | @destruct k o =>
    have := inv_disconnect hi k o
    exact ⟨this.slot, this.lt_next, this.target, this.assigned⟩
  | _ => exact ⟨hi.slot, hi.lt_next, hi.target, hi.assigned⟩

theorem inv_reachable (h : (system α).Reachable s) : Inv s := by
  refine h.invariant (P := Inv) ?_ fun _ _ _ _ hi _ hs => inv_step hi hs
  rintro _ rfl
  exact inv_start

/-- Nobody comes to refer to an observer again that nobody has referred to any more. -/
theorem released_step (hs : Step s e t) : s.released ⊆ t.released := by
  rintro o ⟨hc, hp, ho⟩
  cases hs with
  | create h =>
    refine ⟨Finset.mem_insert_of_mem hc, fun h' => ?_, ho⟩
    rcases Finset.mem_insert.1 h' with rfl | h'
    · exact h hc
    · exact hp h'
  | add _ h =>
    refine ⟨hc, hp, fun h' => ?_⟩
    rcases Finset.mem_insert.1 h' with rfl | h'
    · exact hp h
    · exact ho h'
  | remove => exact ⟨hc, hp, fun h => ho (Finset.mem_of_mem_erase h)⟩
  | clear => exact ⟨hc, hp, by simp⟩
  | letGo => exact ⟨hc, fun h => hp (Finset.mem_of_mem_erase h), ho⟩
  | _ => exact ⟨hc, hp, ho⟩

/-- A disconnected slot is nobody else's. -/
theorem connected_disconnect (hi : Inv s) (k k' : Kind) (o o' : α) :
    (s.disconnect k o).connected o' k'
      = if k' = k ∧ o' = o then false else s.connected o' k' := by
  split
  next heq =>
    obtain ⟨rfl, rfl⟩ := heq
    rw [Bool.eq_false_iff, Ne, connected_iff]
    rintro ⟨slot, hslot, rfl, hc⟩
    exact (mem_disconnect.1 hslot).2 rfl hc.symm
  next hneq =>
    rw [Bool.eq_iff_iff, connected_iff, connected_iff]
    constructor
    · rintro ⟨slot, hslot, rfl, hc⟩
      exact ⟨slot, (mem_disconnect.1 hslot).1, rfl, hc⟩
    · rintro ⟨slot, hslot, rfl, hc⟩
      refine ⟨slot, mem_disconnect.2 ⟨hslot, fun hk hc' => hneq ⟨hk, ?_⟩⟩, rfl, hc⟩
      subst hk
      exact hi.target o k' slot hslot hc'.symm

theorem connected_connect (hi : Inv s) (k k' : Kind) (o o' : α) :
    (s.connect k o).connected o' k' = s.connected o' k' := by
  rw [Bool.eq_iff_iff, connected_iff, connected_iff]
  constructor
  · rintro ⟨slot, hslot, rfl, hc⟩
    rcases mem_connect.1 hslot with h | ⟨rfl, rfl⟩
    · exact ⟨slot, h, rfl, hc⟩
    · exact absurd (hi.lt_next _ _ _ hc) (lt_irrefl _)
  · rintro ⟨slot, hslot, rfl, hc⟩
    exact ⟨slot, mem_connect.2 (.inl hslot), rfl, hc⟩

theorem connected_assign (hi : Inv s) {k k' : Kind} {o o' : α} {id : ℕ}
    (ht : s.todo.head? = some (.connect k o)) (ha : s.assigned = some id) :
    (s.assign k o id).connected o' k'
      = if k' = k ∧ o' = o then true else s.connected o' k' := by
  obtain ⟨hslot, hother⟩ := hi.head ht ha
  split
  next heq =>
    obtain ⟨rfl, rfl⟩ := heq
    refine connected_iff.2 ⟨⟨id, o'⟩, mem_disconnect.2 ⟨hslot, fun _ => ?_⟩, rfl, ?_⟩
    · exact (hother o').symm
    · simp [connections_assign]
  next hneq =>
    -- the slots are those that `disconnect()` leaves, the other connections the same
    have := connected_disconnect hi k k' o o'
    rw [if_neg hneq] at this
    rw [← this, Bool.eq_iff_iff, connected_iff, connected_iff]
    simp only [connections_assign, if_neg hneq]
    rfl

/-- A step brings the slots of an observer to what its calls have asked for. -/
theorem expected_step (hi : Inv s) (hs : Step s e t) {o : α} (ho : o ∉ t.released) {k : Kind}
    {x : SensorDataObserver} (h : s.expected o k = k.connection x.connections) :
    t.expected o k = k.connection (heard o x e).connections := by
  unfold State.expected at h ⊢
  cases hs with
  | @setUp os ht =>
    rw [ht, List.foldl_nil] at h
    rw [foldl_setUp]
    by_cases hos : o ∈ os
    · cases k <;> simp [heard, hos, SensorDataObserver.setUp, Kind.connection]
    · rw [if_neg hos, heard, if_neg hos]
      exact h
  | @tearDown os ht =>
    rw [ht, List.foldl_nil] at h
    rw [foldl_tearDown]
    by_cases hos : o ∈ os
    · cases k <;> simp [heard, hos, SensorDataObserver.tearDown, Kind.connection]
    · rw [if_neg hos, heard, if_neg hos]
      exact h
  | connect ht ha =>
    rw [connected_connect hi]
    exact h
  | @assign k' o' id ht ha =>
    rw [head_tail ht, List.foldl_cons] at h
    rw [connected_assign hi ht ha]
    simpa [Statement.effect, eq_comm, State.assign, heard] using h
  | @disconnect k' o' ht =>
    rw [head_tail ht, List.foldl_cons] at h
    have hdrop : (s.drop k' o').connected o k = (s.disconnect k' o').connected o k := rfl
    rw [hdrop, connected_disconnect hi]
    simpa [Statement.effect, eq_comm, State.drop, heard] using h
  | @destruct k' o' hr =>
    have hne : ¬(k = k' ∧ o = o') := fun h => ho (h.2 ▸ hr)
    have := connected_disconnect hi k' k o' o
    rw [if_neg hne] at this
    simp only [heard]
    rw [← h, ← this]
    rfl
  | _ => exact h

theorem expected_run {es : List (Event α)} {o : α} {x : SensorDataObserver}
    (hx : ∀ k : Kind, k.connection x.connections = false)
    (h : (system α).Run (fun _ _ => True) start es s) (ho : o ∉ s.released) (k : Kind) :
    s.expected o k = k.connection (es.foldl (heard o) x).connections := by
  have hstart : (system α).Reachable (start : State α) := .init rfl
  generalize hs₀ : (start : State α) = s₀ at h hstart
  induction h with
  | nil =>
    subst hs₀
    simp [State.expected, State.connected, start, Signal.empty, hx]
  | snoc hr _ hs ih =>
    rw [List.foldl_append]
    exact expected_step (inv_reachable (hr.reachableBy hstart)) hs ho
      (ih fun h => ho (released_step hs h))

theorem expected_quiet {o : α} (h : s.Quiet o) (k : Kind) : s.expected o k = s.connected o k := by
  unfold State.expected
  unfold State.Quiet at h
  generalize s.connected o k = b
  generalize s.todo = todo at h
  induction todo with
  | nil => rfl
  | cons st todo ih =>
    have hst := h st (by simp)
    have heffect : st.effect o k b = b := by
      cases st <;> simp_all [Statement.effect, Statement.observer]
    rw [List.foldl_cons, heffect]
    exact ih fun st hst => h st (by simp [hst])

/-- An observer that no call is under way for has one slot if it is connected and none if not. -/
theorem Inv.countP_slots (hi : Inv s) {o : α} (h : s.Quiet o) (k : Kind) :
    (s.signals k).slots.countP (fun slot => slot.target = o) = (s.connected o k).toNat := by
  rcases hc : s.connected o k with _ | _
  · refine List.countP_eq_zero.2 fun slot hslot ho => ?_
    have ho : slot.target = o := by simpa using ho
    have := connected_iff.2 ⟨slot, hslot, ho, hi.slot_quiet h hslot ho⟩
    rw [hc] at this
    simp at this
  · obtain ⟨slot, hslot, ho, hconn⟩ := connected_iff.1 hc
    rw [Bool.toNat_true, ← List.count_eq_one_of_mem Signal.nodup hslot, List.count]
    refine List.countP_congr fun slot' hslot' => ?_
    simp only [decide_eq_true_eq, beq_iff_eq]
    constructor
    · intro ho'
      have := hi.slot_quiet h hslot' ho'
      rw [hconn] at this
      exact Signal.eq_of_id hslot' hslot (by simpa using this.symm)
    · rintro rfl
      exact ho

/-- In every run, whatever the network thread does: unless a call on it is under way, an observer
has one slot in each signal if the last call on it was `setUp()`, and none else. -/
theorem slots_exact (topic : String) (accessor : Sensor) {es : List (Event α)}
    (h : (system α).Run (fun _ _ => True) start es s) {o : α} (ho : o ∉ s.released)
    (hq : s.Quiet o) (k : Kind) :
    s.connected o k
        = k.connection (es.foldl (heard o) (SensorDataObserver.create topic accessor)).connections
      ∧ (s.signals k).slots.countP (fun slot => slot.target = o) = (s.connected o k).toNat := by
  refine ⟨?_, (inv_reachable (h.reachableBy (.init rfl))).countP_slots hq k⟩
  rw [← expected_quiet hq]
  refine expected_run (fun k => ?_) h ho k
  cases k <;> rfl

/-- An observer has been set up. -/
theorem exists_setUp : ∃ es, ∃ s : State ℕ, (system ℕ).Run (fun _ _ => True) start es s
    ∧ s.todo = [] ∧ 0 ∉ s.released ∧ 0 ∈ s.pointers ∧ (∀ k, s.emissions k = .idle)
    ∧ (∀ k, (s.signals k).slots = [⟨0, 0⟩]) ∧ (∀ k, s.connections 0 k = some 0)
    ∧ ∀ x, es.foldl (heard 0) x = x.setUp := by
  have hcreate : (system ℕ).Run (fun _ _ => True) start _ _ :=
    .single trivial (Step.create (by simp [start]) : Step _ (.create 0) _)
  have hcall := hcreate.snoc trivial
    (Step.setUp rfl (.inl ⟨0, by simp, rfl⟩) : Step _ (.setUp [0]) _)
  have h1 := hcall.snoc trivial (.connect rfl rfl : Step _ (.connect .onSubscribe 0) _)
  have h2 := h1.snoc trivial (.assign rfl rfl : Step _ (.assign .onSubscribe 0) _)
  have h3 := h2.snoc trivial (.connect rfl rfl : Step _ (.connect .onUnsubscribe 0) _)
  have h4 := h3.snoc trivial (.assign rfl rfl : Step _ (.assign .onUnsubscribe 0) _)
  have h5 := h4.snoc trivial (.connect rfl rfl : Step _ (.connect .onConnect 0) _)
  have h6 := h5.snoc trivial (.assign rfl rfl : Step _ (.assign .onConnect 0) _)
  have h7 := h6.snoc trivial (.connect rfl rfl : Step _ (.connect .onDisconnect 0) _)
  have h8 := h7.snoc trivial (.assign rfl rfl : Step _ (.assign .onDisconnect 0) _)
  have h9 := h8.snoc trivial (.connect rfl rfl : Step _ (.connect .onMessage 0) _)
  have h10 := h9.snoc trivial (.assign rfl rfl : Step _ (.assign .onMessage 0) _)
  refine ⟨_, _, h10, rfl, fun h => h.2.1 ?_, ?_, fun _ => rfl, fun k => ?_, fun k => ?_,
    fun _ => rfl⟩
  · simp [State.assign, State.connect]
  · simp [State.assign, State.connect]
  · cases k <;> rfl
  · cases k <;> rfl

theorem slots_exact_setUp : ∃ es, ∃ s : State ℕ, (system ℕ).Run (fun _ _ => True) start es s
    ∧ (s.signals .onMessage).slots.countP (fun slot => slot.target = 0) = 1 := by
  obtain ⟨es, s, h, htodo, hheld, -, -, -, -, hheard⟩ := exists_setUp
  obtain ⟨hconn, hcount⟩ :=
    slots_exact "temperature" .temperature h hheld (by simp [State.Quiet, htodo]) .onMessage
  refine ⟨es, s, h, ?_⟩
  rw [hcount, hconn, hheard]
  rfl

section Seen

/-- One signal, with its emission. -/
def State.seen (k : Kind) (s : State α) : Signals.State α :=
  ⟨s.signals k, s.released, s.emissions k⟩

/-- What an event is for one signal. -/
def Event.seen (k : Kind) : Event α → Option (Signals.Event α)
  | .setUp _ | .tearDown _ => none
  | .create _ | .add _ | .remove _ | .clear | .letGo _ => some .release
  | .connect k' o => if k' = k then some (.connect o) else none
  | .assign k' _ | .disconnect k' _ | .destruct k' _ => if k' = k then some .disconnect else none
  | .network k' e => if k' = k then some (.emission e) else none

omit [LinearOrder α] in
/-- A change to a signal is a step of that signal, and none of another. -/
theorem seen_signal (s : State α) {t : State α} (k k' : Kind) {signal : Signal α}
    {d : Signals.Event α} (h : t.signals = Function.update s.signals k' signal)
    (hr : t.released = s.released) (he : t.emissions = s.emissions)
    (hd : Signals.Step (s.seen k') d { s.seen k' with signal := signal }) :
    if k' = k then (Signals.system α).step (s.seen k) d (t.seen k) else t.seen k = s.seen k := by
  by_cases hk : k' = k
  · subst hk
    have ht : t.seen k' = { s.seen k' with signal := signal } := by simp [State.seen, h, hr, he]
    rw [if_pos rfl, ht]
    exact hd
  · simp [hk, State.seen, h, hr, he, Function.update_of_ne (Ne.symm hk)]

omit [LinearOrder α] in
theorem called_seen (k : Kind) (es : List (Event α)) :
    (es.filterMap (Event.seen k)).filterMap Event.called = es.filterMap (Event.begun k) := by
  rw [List.filterMap_filterMap]
  congr 1
  funext e
  cases e with
  | network k' e =>
    by_cases hk : k' = k
    · cases e <;> simp [Event.seen, Event.begun, Event.called, hk]
    · cases e <;> simp [Event.seen, Event.begun, hk]
  | connect k' | assign k' | disconnect k' | destruct k' =>
    by_cases hk : k' = k <;> simp [Event.seen, Event.begun, Event.called, hk]
  | _ => rfl

theorem seen_run (k : Kind) {es : List (Event α)} (h : (system α).Run (fun _ _ => True) s es t) :
    (Signals.system α).Run (fun _ _ => True) (s.seen k) (es.filterMap (Event.seen k))
      (t.seen k) := by
  refine System.Run.project (f := State.seen k) (fun s e t hs => ?_) h
  have hreleased := released_step hs
  cases hs with
  | setUp | tearDown => rfl
  | create | add | remove | clear | letGo => exact .release hreleased
  | @connect k' o =>
    have hseen := seen_signal s k k' (t := s.connect k' o) rfl rfl rfl .connect
    by_cases hk : k' = k <;> simpa [Event.seen, hk] using hseen
  | @assign k' o id =>
    have hseen := seen_signal s k k' (t := s.assign k' o id) rfl rfl rfl .disconnect
    by_cases hk : k' = k <;> simpa [Event.seen, hk] using hseen
  | @disconnect k' o =>
    have hseen := seen_signal s k k' (t := s.drop k' o) rfl rfl rfl .disconnect
    by_cases hk : k' = k <;> simpa [Event.seen, hk] using hseen
  | @destruct k' o =>
    have hseen := seen_signal s k k'
      (t := { s.disconnect k' o with destructed := insert o s.destructed }) rfl rfl rfl .disconnect
    by_cases hk : k' = k <;> simpa [Event.seen, hk] using hseen
  | @network k' e x _ hx =>
    by_cases hk : k' = k
    · subst hk
      have : Signals.Step (s.seen k') (.emission e) { s.seen k' with emission := x } :=
        .emission hx
      simp only [Event.seen, if_true, State.seen, Function.update_self]
      exact this
    · simp only [Event.seen, if_neg hk, State.seen, Function.update_of_ne (Ne.symm hk)]
      rfl

omit [LinearOrder α] in
theorem within_seen {k : Kind} {d : Signals.Event α} (hd : e.seen k = some d)
    (hemit : e ≠ .network k .emit) (hthrown : e ≠ .network k .thrown) : d.within = true := by
  cases e with
  | network k' x =>
    rw [Event.seen] at hd
    split at hd
    next hk =>
      subst hk
      obtain rfl : Signals.Event.emission x = d := by simpa using hd
      cases x with
      | emit => exact absurd rfl hemit
      | thrown => exact absurd rfl hthrown
      | _ => rfl
    next => simp at hd
  | setUp | tearDown => simp [Event.seen] at hd
  | create | add | remove | clear | letGo =>
    obtain rfl : Signals.Event.release = d := by simpa [Event.seen] using hd
    rfl
  | connect k' o =>
    obtain ⟨-, rfl⟩ : k' = k ∧ Signals.Event.connect o = d := by simpa [Event.seen] using hd
    rfl
  | assign k' | disconnect k' | destruct k' =>
    obtain ⟨-, rfl⟩ : k' = k ∧ Signals.Event.disconnect = d := by simpa [Event.seen] using hd
    rfl

end Seen

/-- While no call is made on an observer and somebody refers to it, its slots stay. -/
theorem keeps_step (hi : Inv s) (hs : Step s e t) {o : α} (hq : s.Quiet o)
    (he : e.about o = false) (ho : o ∉ t.released) :
    t.Quiet o ∧ ∀ k, ∀ slot ∈ (s.signals k).slots, slot.target = o →
      s.connections o k = some slot.id → slot ∈ (t.signals k).slots := by
  have hdisconnect : ∀ k' o', o' ≠ o → ∀ k, ∀ slot ∈ (s.signals k).slots, slot.target = o →
      slot ∈ ((s.disconnect k' o').signals k).slots := by
    intro k' o' hne k slot hslot htarget
    refine mem_disconnect.2 ⟨hslot, fun hk hc => hne ?_⟩
    subst hk
    rw [← htarget, hi.target o' k slot hslot hc.symm]
  have htail : ∀ st ∈ s.todo.tail, st.observer ≠ o := fun st hst => hq st (List.mem_of_mem_tail hst)
  have hhead : ∀ st, s.todo.head? = some st → st.observer ≠ o :=
    fun st hst => hq st (List.mem_of_mem_head? hst)
  cases hs with
  | setUp =>
    refine ⟨fun st hst => ?_, fun _ slot hslot _ _ => hslot⟩
    obtain ⟨o', ho', hst⟩ := List.mem_flatMap.1 hst
    rintro rfl
    simp [Event.about, observer_setUp hst, ho'] at he
  | tearDown =>
    refine ⟨fun st hst => ?_, fun _ slot hslot _ _ => hslot⟩
    obtain ⟨o', ho', hst⟩ := List.mem_flatMap.1 hst
    rintro rfl
    simp [Event.about, observer_tearDown hst, ho'] at he
  | connect => exact ⟨hq, fun k slot hslot _ _ => mem_connect.2 (.inl hslot)⟩
  | @assign k' o' id ht =>
    exact ⟨htail, fun k slot hslot htarget _ =>
      hdisconnect k' o' (hhead _ ht) k slot hslot htarget⟩
  | @disconnect k' o' ht =>
    exact ⟨htail, fun k slot hslot htarget _ =>
      hdisconnect k' o' (hhead _ ht) k slot hslot htarget⟩
  | @destruct k' o' hr =>
    have hne : o' ≠ o := fun h => ho (h ▸ hr)
    exact ⟨hq, fun k slot hslot htarget _ => hdisconnect k' o' hne k slot hslot htarget⟩
  | _ => exact ⟨hq, fun _ slot hslot _ _ => hslot⟩

theorem keeps_run {es : List (Event α)} (h : (system α).Reachable s)
    (hr : (system α).Run (fun _ _ => True) s es t) {o : α} (hq : s.Quiet o)
    (hes : ∀ e ∈ es, e.about o = false) (ho : o ∉ t.released) :
    t.Quiet o ∧ ∀ k, ∀ slot ∈ (s.signals k).slots, slot.target = o →
      slot ∈ (t.signals k).slots := by
  induction hr with
  | nil => exact ⟨hq, fun _ _ hslot _ => hslot⟩
  | @snoc u v es e hr _ hs ih =>
    have hi := inv_reachable (hr.reachableBy h)
    obtain ⟨hquiet, hslots⟩ := ih (fun e he => hes e (List.mem_append_left _ he))
      fun h => ho (released_step hs h)
    obtain ⟨hquiet', hslots'⟩ := keeps_step hi hs hquiet (hes e (by simp)) ho
    refine ⟨hquiet', fun k slot hslot htarget => ?_⟩
    have hmem := hslots k slot hslot htarget
    exact hslots' k slot hmem htarget (hi.slot_quiet hquiet hmem htarget)

/-- In every run, whatever calls are made on other observers: an emission that no exception ends
calls the slots of its beginning in the order in which they were connected, and every observer that
somebody refers to, and that no call is made on, once if the last call on it was `setUp()` and else
not at all. -/
theorem emission_once (topic : String) (accessor : Sensor) {es₀ es : List (Event α)} {u v : State α}
    {k : Kind} (h : (system α).Run (fun _ _ => True) start es₀ u)
    (hemit : (system α).step u (.network k .emit) v) (hr : (system α).Run (fun _ _ => True) v es s)
    (hes : ∀ e ∈ es, e ≠ .network k .emit ∧ e ≠ .network k .thrown)
    (hend : s.emissions k = .idle) : (es.filterMap (Event.begun k)).Sublist (u.signals k).slots
      ∧ ∀ o, u.Quiet o → (∀ e ∈ es, e.about o = false) → o ∉ s.released →
        (es.filterMap (Event.begun k)).countP (fun slot => slot.target = o)
          = (k.connection (es₀.foldl (heard o)
              (SensorDataObserver.create topic accessor)).connections).toNat := by
  have hreach : (system α).Reachable u := h.reachableBy (.init rfl)
  obtain ⟨hem, hsignals⟩ : v.emissions k = .next (u.signals k).slots ∧ v.signals = u.signals := by
    cases hemit with
    | network _ hx =>
      generalize u.emissions k = y at hx
      cases hx
      exact ⟨by simp, rfl⟩
  have hseen := (seen_run k hr).of_forall (P := fun e => e.within = true) fun d hd => by
    obtain ⟨e, he, hd⟩ := List.mem_filterMap.1 hd
    exact within_seen hd (hes e he).1 (hes e he).2
  obtain ⟨hsub, hall⟩ := Signals.emission_exact (by rw [State.seen, hem, hsignals]) hseen hend
  rw [called_seen] at hsub hall
  rw [show (v.seen k).signal = u.signals k from congrFun hsignals k] at hsub hall
  refine ⟨hsub, fun o hq hes ho => ?_⟩
  have hu : o ∉ u.released := fun h' =>
    ho (hr.invariant (P := fun s => o ∈ s.released) (fun _ _ _ h _ hs => released_step hs h)
      (released_step hemit h'))
  obtain ⟨hconn, hcount⟩ := slots_exact topic accessor h hu hq k
  rw [← hconn]
  have hle := hsub.countP_le (p := fun slot => decide (slot.target = o))
  rcases hc : u.connected o k with _ | _
  · rw [hc] at hcount
    simp only [Bool.toNat_false] at hcount ⊢
    omega
  · obtain ⟨slot, hslot, htarget, -⟩ := connected_iff.1 hc
    have hv : v.Quiet o := by
      cases hemit
      exact hq
    have hstays := (keeps_run (hreach.next hemit) hr hv hes ho).2 k slot (hsignals ▸ hslot) htarget
    have hmem := hall slot hslot hstays (htarget ▸ ho)
    have hpos : 0 < (es.filterMap (Event.begun k)).countP fun slot => slot.target = o :=
      List.countP_pos_iff.2 ⟨slot, hmem, decide_eq_true htarget⟩
    rw [hc] at hcount
    simp only [Bool.toNat_true] at hcount ⊢
    omega

theorem emission_once_setUp : ∃ es, ∃ s t : State ℕ, (system ℕ).Run (fun _ _ => True) s es t
    ∧ (es.filterMap (Event.begun .onMessage)).countP (fun slot => slot.target = 0) = 1 := by
  obtain ⟨es₀, s, h, htodo, hheld, -, hidle, hslots, -, hheard⟩ := exists_setUp
  let v : State ℕ := { s with
    emissions := Function.update s.emissions .onMessage (.next (s.signals .onMessage).slots) }
  have hemit : Step s (.network .onMessage .emit) v :=
    .network (fun k _ => hidle k) (by rw [hidle]; exact .emit)
  have hpick := (System.Run.nil (S := system ℕ) (C := fun _ _ => True) v).snoc trivial
    (.network (fun k hk => by simpa [v, hk] using hidle k) (by
      simp only [v, Function.update_self, hslots]
      exact .pick (by simp [hslots])) : Step v (.network .onMessage .pick) _)
  have hcall := hpick.snoc trivial
    (.network (fun k hk => by simpa [v, hk] using hidle k) (by
      simp only [Function.update_self]
      exact .call hheld) : Step _ (.network .onMessage (.call ⟨0, 0⟩)) _)
  have hreturned := hcall.snoc trivial
    (.network (fun k hk => by simpa [v, hk] using hidle k) (by
      simp only [Function.update_self]
      exact .returned) : Step _ (.network .onMessage .returned) _)
  have hfinish := hreturned.snoc trivial
    (.network (fun k hk => by simpa [v, hk] using hidle k) (by
      simp only [Function.update_self]
      exact .finish) : Step _ (.network .onMessage .finish) _)
  obtain ⟨-, honce⟩ := emission_once "temperature" .temperature h hemit hfinish (by simp) (by simp)
  refine ⟨_, _, _, hfinish, ?_⟩
  rw [honce 0 (by simp [State.Quiet, htodo]) (by simp [Event.about]) hheld, hheard]
  rfl

/-- Nothing of the call under way connects a slot of the observer. -/
def State.Down (s : State α) (o : α) : Prop := ∀ st ∈ s.todo, ∀ k, st ≠ .connect k o

theorem down_step (hs : Step s e t) {o : α} (hd : s.Down o) (he : ∀ os, e = .setUp os → o ∉ os) :
    (∀ k, e ≠ .connect k o) ∧ t.Down o := by
  have htail : ∀ st ∈ s.todo.tail, ∀ k, st ≠ .connect k o :=
    fun st hst => hd st (List.mem_of_mem_tail hst)
  cases hs with
  | @setUp os =>
    refine ⟨fun k => nofun, fun st hst k => ?_⟩
    obtain ⟨o', ho', hst⟩ := List.mem_flatMap.1 hst
    rintro rfl
    obtain rfl : o = o' := observer_setUp hst
    exact he os rfl ho'
  | @tearDown os =>
    refine ⟨fun k => nofun, fun st hst k => ?_⟩
    obtain ⟨o', ho', hst⟩ := List.mem_flatMap.1 hst
    rintro rfl
    simp [Wiring.tearDown] at hst
  | @connect k' o' ht =>
    refine ⟨fun k => ?_, hd⟩
    rintro ⟨rfl, rfl⟩
    exact hd _ (List.mem_of_mem_head? ht) _ rfl
  | assign | disconnect => exact ⟨fun k => nofun, htail⟩
  | _ => exact ⟨fun k => nofun, hd⟩

theorem down_run {es : List (Event α)} (h : (system α).Run (fun _ _ => True) s es t) {o : α}
    (hd : s.Down o) (hes : ∀ e ∈ es, ∀ os, e = .setUp os → o ∉ os) :
    (∀ e ∈ es, ∀ k, e ≠ .connect k o) ∧ t.Down o := by
  induction h with
  | nil => exact ⟨by simp, hd⟩
  | snoc _ _ hs ih =>
    obtain ⟨hes', hd'⟩ := ih fun e he => hes e (List.mem_append_left _ he)
    obtain ⟨he, hd''⟩ := down_step hs hd' (hes _ (by simp))
    refine ⟨fun e' he' => ?_, hd''⟩
    rcases List.mem_append.1 he' with he' | he'
    · exact hes' e' he'
    · obtain rfl := List.mem_singleton.1 he'
      exact he

/-- One signal at a time is emitted, and no handler runs for an observer whose destructor has been
called. -/
structure Single (s : State α) : Prop where
  one : ∀ k k', s.emissions k ≠ .idle → s.emissions k' ≠ .idle → k = k'
  destructed : s.destructed ⊆ s.released
  runs : ∀ k o, (s.emissions k).Runs o → o ∉ s.destructed

theorem single_step (h : Single s) (hs : Step s e t) : Single t := by
  have hreleased := released_step hs
  cases hs with
  | @destruct k o hr hruns =>
    refine ⟨h.one, fun o' ho' => ?_, fun k' o' hrun ho' => ?_⟩
    · rcases Set.mem_insert_iff.1 ho' with rfl | ho'
      · exact hr
      · exact h.destructed ho'
    · rcases Set.mem_insert_iff.1 ho' with rfl | ho'
      · exact hruns k' hrun
      · exact h.runs k' o' hrun ho'
  | @network k e x hidle hx =>
    refine ⟨fun k₁ k₂ h₁ h₂ => ?_, h.destructed, fun k' o hrun => ?_⟩
    · by_cases hk₁ : k₁ = k
      · by_cases hk₂ : k₂ = k
        · rw [hk₁, hk₂]
        · simp [hk₂, hidle k₂ hk₂] at h₂
      · simp [hk₁, hidle k₁ hk₁] at h₁
    · by_cases hk : k' = k
      · subst hk
        simp only [Function.update_self] at hrun
        generalize s.emissions k' = y at hx
        cases hx with
        | @call slot rest hheld =>
          obtain rfl : slot.target = o := hrun
          exact fun hd => hheld (h.destructed hd)
        | _ => exact absurd hrun (by simp [Emission.Runs])
      · simp only [Function.update_of_ne hk] at hrun
        exact h.runs k' o hrun
  | _ => exact ⟨h.one, h.destructed.trans hreleased, h.runs⟩

theorem single_reachable (h : (system α).Reachable s) : Single s := by
  refine h.invariant (P := Single) ?_ fun _ _ _ _ hi _ hs => single_step hi hs
  rintro _ rfl
  exact ⟨fun _ _ h => absurd rfl h, by simp [start], by simp [start, Emission.Runs]⟩

theorem begun_step (hs : Step s e t) {k : Kind} {slot : Slot α} (he : e.begun k = some slot) :
    slot.target ∉ s.released := by
  cases hs with
  | @network k' x y _ hx =>
    generalize s.emissions k' = z at hx
    cases hx with
    | @call slot' rest hheld =>
      obtain ⟨-, rfl⟩ : k' = k ∧ slot' = slot := by simpa [Event.begun] using he
      exact hheld
    | _ => simp [Event.begun] at he
  | _ => simp [Event.begun] at he

theorem released_run {es : List (Event α)} (h : (system α).Run (fun _ _ => True) s es t) {o : α}
    (ho : o ∈ s.released) : o ∈ t.released
      ∧ ∀ k, (es.filterMap (Event.begun k)).countP (fun slot => slot.target = o) = 0 := by
  induction h with
  | nil => exact ⟨ho, by simp⟩
  | @snoc u v es e _ _ hs ih =>
    obtain ⟨hu, hcount⟩ := ih
    refine ⟨released_step hs hu, fun k => ?_⟩
    rw [List.filterMap_append, List.countP_append, hcount k, Nat.zero_add]
    refine List.countP_eq_zero.2 fun slot hslot ho' => ?_
    obtain ⟨e', he', hbegun⟩ := List.mem_filterMap.1 hslot
    obtain rfl := List.mem_singleton.1 he'
    obtain rfl : slot.target = o := by simpa using ho'
    exact begun_step hs hbegun hu

/-- Without a slot, and with no `setUp()` to come, all that can begin is what has been picked. -/
theorem begun_le {es : List (Event α)} (hr : (system α).Run (fun _ _ => True) s es t) {o : α}
    (hd : s.Down o) (hes : ∀ e ∈ es, ∀ os, e = .setUp os → o ∉ os) {k : Kind}
    (hnone : ∀ slot ∈ (s.signals k).slots, slot.target ≠ o) :
    (es.filterMap (Event.begun k)).countP (fun slot => slot.target = o)
      ≤ if (s.emissions k).Picks o then 1 else 0 := by
  have hseen := (seen_run k hr).of_forall (P := fun d => d ≠ .connect o) fun d hd' => by
    obtain ⟨e, he, hd'⟩ := List.mem_filterMap.1 hd'
    rintro rfl
    have hno := (down_run hr hd hes).1 e he k
    cases e with
    | connect k' o' =>
      obtain ⟨rfl, rfl⟩ : k' = k ∧ o' = o := by simpa [Event.seen] using hd'
      exact hno rfl
    | _ => simp [Event.seen] at hd'
  have hle := (calls_le hnone hseen).2
  unfold calls picks at hle
  rw [called_seen] at hle
  exact (Nat.le_add_right _ _).trans hle

/-- In every run, whatever the network thread is at: once a call has left an observer torn down and
`setUp()` is not called on it again, no handler of it begins but one that the emission under way has
picked; once nobody refers to it, not even that one; and no handler ever runs for an observer whose
destructor has been called. -/
theorem tearDown_stops (topic : String) (accessor : Sensor) {es₀ es : List (Event α)} {u : State α}
    {o : α} (h : (system α).Run (fun _ _ => True) start es₀ u) (hq : u.Quiet o)
    (hdown : (es₀.foldl (heard o) (SensorDataObserver.create topic accessor)).connections
      = ⟨false, false, false, false, false⟩)
    (hr : (system α).Run (fun _ _ => True) u es s) (hes : ∀ e ∈ es, ∀ os, e = .setUp os → o ∉ os) :
    (∀ k, (es.filterMap (Event.begun k)).countP (fun slot => slot.target = o) ≤ 1)
      ∧ (∀ k, 0 < (es.filterMap (Event.begun k)).countP (fun slot => slot.target = o) →
        (u.emissions k).Picks o ∧ ∀ k', k' ≠ k → u.emissions k' = .idle)
      ∧ ∀ k, (s.emissions k).Runs o → o ∉ s.destructed := by
  have hreach : (system α).Reachable u := h.reachableBy (.init rfl)
  have hle : ∀ k, (es.filterMap (Event.begun k)).countP (fun slot => slot.target = o)
      ≤ if (u.emissions k).Picks o then 1 else 0 := by
    intro k
    by_cases ho : o ∈ u.released
    · rw [(released_run hr ho).2 k]
      exact Nat.zero_le _
    · refine begun_le hr (fun st hst k' => ?_) hes fun slot hslot htarget => ?_
      · rintro rfl
        exact hq _ hst rfl
      · obtain ⟨hconn, hcount⟩ := slots_exact topic accessor h ho hq k
        have hfalse : u.connected o k = false := by
          rw [hconn, hdown]
          cases k <;> rfl
        rw [hfalse, Bool.toNat_false, List.countP_eq_zero] at hcount
        exact hcount slot hslot (decide_eq_true htarget)
  refine ⟨fun k => (hle k).trans ?_, fun k hpos => ?_,
    fun k => (single_reachable (hr.reachableBy hreach)).runs k o⟩
  · split <;> omega
  · have hpicks : (u.emissions k).Picks o := by
      by_contra hno
      have := hle k
      rw [if_neg hno] at this
      omega
    refine ⟨hpicks, fun k' hne => ?_⟩
    by_contra hbusy
    refine hne ((single_reachable hreach).one k' k hbusy fun hidle => ?_)
    rw [hidle] at hpicks
    exact hpicks

theorem tearDown_stops_picked : ∃ es, ∃ u s : State ℕ,
    (system ℕ).Run (fun _ _ => True) u es s ∧ (u.emissions .onMessage).Picks 0
      ∧ (es.filterMap (Event.begun .onMessage)).countP (fun slot => slot.target = 0) = 1 := by
  obtain ⟨es₀, s, h, htodo, hheld, hpointer, hidle, hslots, -, hheard⟩ := exists_setUp
  have hemit := h.snoc trivial (.network (fun k _ => hidle k) (by rw [hidle]; exact .emit) :
    Step s (.network .onMessage .emit) _)
  have hpick := hemit.snoc trivial
    (.network (fun k hk => by simpa [hk] using hidle k) (by
      simp only [Function.update_self, hslots]
      exact .pick (by simp [hslots])) : Step _ (.network .onMessage .pick) _)
  have hcall := hpick.snoc trivial (.tearDown (by exact htodo)
    (.inl ⟨0, by exact hpointer, rfl⟩) : Step _ (.tearDown [0]) _)
  have h1 := hcall.snoc trivial (.disconnect rfl : Step _ (.disconnect .onSubscribe 0) _)
  have h2 := h1.snoc trivial (.disconnect rfl : Step _ (.disconnect .onUnsubscribe 0) _)
  have h3 := h2.snoc trivial (.disconnect rfl : Step _ (.disconnect .onConnect 0) _)
  have h4 := h3.snoc trivial (.disconnect rfl : Step _ (.disconnect .onDisconnect 0) _)
  have h5 := h4.snoc trivial (.disconnect rfl : Step _ (.disconnect .onMessage 0) _)
  have hnil : ∀ {es : List (Event ℕ)} {u : State ℕ},
      (system ℕ).Run (fun _ _ => True) start es u → (system ℕ).Run (fun _ _ => True) u [] u :=
    fun _ => .nil _
  have hbegin := (hnil h5).snoc trivial
    (.network (fun k hk => by simpa [State.drop, State.disconnect, hk] using hidle k) (by
      simp only [State.drop, State.disconnect, Function.update_self]
      exact .call hheld) : Step _ (.network .onMessage (.call ⟨0, 0⟩)) _)
  obtain ⟨hle, hpicked, -⟩ := tearDown_stops (o := 0) "temperature" .temperature h5
    (by simp [State.Quiet, State.drop, State.disconnect, Wiring.tearDown])
    (by simp only [List.foldl_append, hheard]; rfl) hbegin (by simp)
  refine ⟨_, _, _, hbegin, (hpicked .onMessage (by simp [Event.begun])).1, ?_⟩
  exact le_antisymm (hle .onMessage) (by simp [Event.begun])

end Wiring

end SensorityCollector
