import SensorityCollector.Transition

/-!
# Signals

A signal calls the slots connected to it in the order in which they were connected. An emission
goes over the slots that it has found at its beginning. One that is not connected any more when its
turn comes is passed over; one that is gets picked, and is called if somebody still refers to the
object it is for. Slots are connected and disconnected and objects let go of at any time.
-/

namespace Signals

open Transition

variable {α : Type*}

structure Slot (α : Type*) where
  id : ℕ
  target : α
  deriving DecidableEq, Repr

/-- The slots connected, in the order of their ids, and the id that is given out next. -/
structure Signal (α : Type*) where
  slots : List (Slot α)
  next : ℕ
  sorted : slots.Pairwise fun a b => a.id < b.id
  lt_next : ∀ slot ∈ slots, slot.id < next

namespace Signal

def empty : Signal α := ⟨[], 0, .nil, by simp⟩

variable (s : Signal α)

def connect (a : α) : Signal α where
  slots := s.slots ++ [⟨s.next, a⟩]
  next := s.next + 1
  sorted := List.pairwise_append.2 ⟨s.sorted, List.pairwise_singleton .., by
    simpa using s.lt_next⟩
  lt_next := by
    intro slot h
    rcases List.mem_append.1 h with h | h
    · exact (s.lt_next slot h).trans (Nat.lt_succ_self _)
    · obtain rfl : slot = ⟨s.next, a⟩ := by simpa using h
      exact Nat.lt_succ_self _

/-- Without the slot of a connection, `none` being one that refers to nothing. -/
def disconnect (c : Option ℕ) : Signal α where
  slots := s.slots.filter fun slot => some slot.id ≠ c
  next := s.next
  sorted := s.sorted.sublist List.filter_sublist
  lt_next slot h := s.lt_next slot (List.mem_of_mem_filter h)

variable {s}

@[simp] theorem mem_connect {slot : Slot α} {a : α} :
    slot ∈ (s.connect a).slots ↔ slot ∈ s.slots ∨ slot = ⟨s.next, a⟩ := by
  simp [connect]

@[simp] theorem next_connect (a : α) : (s.connect a).next = s.next + 1 := rfl

@[simp] theorem mem_disconnect {slot : Slot α} {c : Option ℕ} :
    slot ∈ (s.disconnect c).slots ↔ slot ∈ s.slots ∧ some slot.id ≠ c := by
  simp [disconnect]

@[simp] theorem next_disconnect (c : Option ℕ) : (s.disconnect c).next = s.next := rfl

theorem nodup_id : (s.slots.map Slot.id).Nodup :=
  List.pairwise_map.2 (s.sorted.imp Nat.ne_of_lt)

theorem nodup : s.slots.Nodup := nodup_id.of_map

theorem eq_of_id {a b : Slot α} (ha : a ∈ s.slots) (hb : b ∈ s.slots) (h : a.id = b.id) : a = b :=
  List.inj_on_of_nodup_map nodup_id ha hb h

end Signal

/-- An emission between two slots, at one that it has found connected, or in one that it has
called. -/
inductive Emission (α : Type*)
  | idle
  | next (rest : List (Slot α))
  | picked (slot : Slot α) (rest : List (Slot α))
  | running (slot : Slot α) (rest : List (Slot α))

namespace Emission

inductive Event (α : Type*)
  | emit
  | skip
  | pick
  | miss
  | call (slot : Slot α)
  | returned
  | thrown
  | finish

/-- `released` are the objects that nobody else refers to. -/
inductive Step (s : Signal α) (released : Set α) : Emission α → Event α → Emission α → Prop
  | emit : Step s released .idle .emit (.next s.slots)
  | skip {slot : Slot α} {rest : List (Slot α)} : slot ∉ s.slots →
      Step s released (.next (slot :: rest)) .skip (.next rest)
  | pick {slot : Slot α} {rest : List (Slot α)} : slot ∈ s.slots →
      Step s released (.next (slot :: rest)) .pick (.picked slot rest)
  | miss {slot : Slot α} {rest : List (Slot α)} : slot.target ∈ released →
      Step s released (.picked slot rest) .miss (.next rest)
  | call {slot : Slot α} {rest : List (Slot α)} : slot.target ∉ released →
      Step s released (.picked slot rest) (.call slot) (.running slot rest)
  | returned {slot : Slot α} {rest : List (Slot α)} :
      Step s released (.running slot rest) .returned (.next rest)
  | thrown {slot : Slot α} {rest : List (Slot α)} :
      Step s released (.running slot rest) .thrown .idle
  | finish : Step s released (.next []) .finish .idle

/-- The slots it has not decided on yet. -/
def left : Emission α → List (Slot α)
  | .idle => []
  | .next rest | .running _ rest => rest
  | .picked slot rest => slot :: rest

def Picks (a : α) : Emission α → Prop
  | .picked slot _ => slot.target = a
  | _ => False

def Runs (a : α) : Emission α → Prop
  | .running slot _ => slot.target = a
  | _ => False

instance [DecidableEq α] (a : α) : DecidablePred (Picks a) := fun x =>
  match x with
  | .picked slot _ => inferInstanceAs (Decidable (slot.target = a))
  | .idle | .next _ | .running _ _ => .isFalse id

end Emission

structure State (α : Type*) where
  signal : Signal α
  released : Set α
  emission : Emission α

inductive Event (α : Type*)
  | emission (e : Emission.Event α)
  | connect (a : α)
  | disconnect
  | release

inductive Step : State α → Event α → State α → Prop
  | emission {s : State α} {e : Emission.Event α} {x : Emission α} :
      Emission.Step s.signal s.released s.emission e x →
      Step s (.emission e) { s with emission := x }
  | connect {s : State α} {a : α} : Step s (.connect a) { s with signal := s.signal.connect a }
  | disconnect {s : State α} {c : Option ℕ} :
      Step s .disconnect { s with signal := s.signal.disconnect c }
  | release {s : State α} {r : Set α} : s.released ⊆ r → Step s .release { s with released := r }

def system (α : Type*) : System (State α) (Event α) where
  init s := s = ⟨.empty, ∅, .idle⟩
  step := Step

/-- The slot that an event calls. -/
def Event.called : Event α → Option (Slot α)
  | .emission (.call slot) => some slot
  | _ => none

/-- Neither begins an emission nor ends one early. -/
def Event.within : Event α → Bool
  | .emission .emit | .emission .thrown => false
  | _ => true

variable {s t : State α} {e : Event α} {es : List (Event α)}

@[simp] theorem called_snoc (es : List (Event α)) (e : Event α) :
    (es ++ [e]).filterMap Event.called = es.filterMap Event.called ++ e.called.toList := by
  rcases he : e.called with _ | slot <;> simp [he]

theorem step_next_le (h : Step s e t) : s.signal.next ≤ t.signal.next := by
  cases h with
  | connect => simp
  | _ => exact le_rfl

theorem step_released (h : Step s e t) : s.released ⊆ t.released := by
  cases h with
  | release h => exact h
  | _ => exact subset_rfl

/-- No slot comes back. -/
theorem step_slots (h : Step s e t) {slot : Slot α} (hslot : slot ∈ t.signal.slots)
    (hid : slot.id < s.signal.next) : slot ∈ s.signal.slots := by
  cases h with
  | connect =>
    rcases Signal.mem_connect.1 hslot with h | rfl
    · exact h
    · exact absurd hid (lt_irrefl _)
  | disconnect => exact (Signal.mem_disconnect.1 hslot).1
  | _ => exact hslot

/-- How far an emission over `slots` has come after the events `es`: what it has decided on, and of
it has called in order whatever is still connected and referred to. -/
structure Progress (slots : List (Slot α)) (es : List (Event α)) (s : State α) : Prop where
  lt_next : ∀ slot ∈ slots, slot.id < s.signal.next
  decided : ∃ decided, slots = decided ++ s.emission.left
    ∧ (es.filterMap Event.called).Sublist decided
    ∧ ∀ slot ∈ decided, slot ∈ s.signal.slots → slot.target ∉ s.released →
      slot ∈ es.filterMap Event.called

theorem Progress.keeps {slots : List (Slot α)} (h : Progress slots es s) (hs : Step s e t)
    (hleft : t.emission.left = s.emission.left) (he : e.called = none) :
    Progress slots (es ++ [e]) t := by
  obtain ⟨decided, hdecided, hsub, hall⟩ := h.decided
  refine ⟨fun slot hslot => (h.lt_next slot hslot).trans_le (step_next_le hs), decided, ?_, ?_, ?_⟩
  · rwa [hleft]
  · simpa [he] using hsub
  · intro slot hslot hconnected hheld
    have hlt := h.lt_next slot (hdecided ▸ List.mem_append_left _ hslot)
    have := hall slot hslot (step_slots hs hconnected hlt) fun hr => hheld (step_released hs hr)
    simpa [he] using this

/-- An emission decides on its next slot. -/
theorem Progress.decides {slots : List (Slot α)} {slot : Slot α} {x : Emission α}
    (h : Progress slots es s) (hleft : s.emission.left = slot :: x.left)
    (he : e.called = none → slot ∈ s.signal.slots → slot.target ∈ s.released)
    (he' : ∀ called, e.called = some called → called = slot) :
    Progress slots (es ++ [e]) { s with emission := x } := by
  obtain ⟨decided, hdecided, hsub, hall⟩ := h.decided
  refine ⟨h.lt_next, decided ++ [slot], by simp [hdecided, hleft], ?_, ?_⟩
  · rw [called_snoc]
    refine hsub.append ?_
    rcases hc : e.called with _ | called
    · simp
    · simp [he' called hc]
  · intro slot' hslot' hconnected hheld
    rw [called_snoc, List.mem_append]
    rcases List.mem_append.1 hslot' with hslot' | hslot'
    · exact .inl (hall slot' hslot' hconnected hheld)
    · obtain rfl : slot' = slot := by simpa using hslot'
      rcases hc : e.called with _ | called
      · exact absurd (he hc hconnected) hheld
      · simp [he' called hc]

theorem progress_step {slots : List (Slot α)} (h : Progress slots es s) (he : e.within = true)
    (hs : Step s e t) : Progress slots (es ++ [e]) t := by
  have hstep := hs
  cases hs with
  | emission hx =>
    generalize hem : s.emission = y at hx
    cases hx with
    | emit => cases he
    | thrown => cases he
    | @skip slot rest hslot =>
      have hleft : s.emission.left = slot :: rest := by simp [hem, Emission.left]
      exact h.decides hleft (fun _ hc => absurd hc hslot) nofun
    | @miss slot rest hslot =>
      have hleft : s.emission.left = slot :: rest := by simp [hem, Emission.left]
      exact h.decides hleft (fun _ _ => hslot) nofun
    | @call slot rest hslot =>
      have hleft : s.emission.left = slot :: rest := by simp [hem, Emission.left]
      exact h.decides hleft nofun (by simp [Event.called])
    | _ => exact h.keeps hstep (by simp [hem, Emission.left]) rfl
  | _ => exact h.keeps hstep rfl rfl

/-- From its beginning on, an emission that is not cut short calls, in their order and once each,
slots of those that were connected at its beginning, and among them all that are connected and
referred to until its end. -/
theorem emission_exact (hem : s.emission = .next s.signal.slots)
    (h : (system α).Run (fun _ e => e.within = true) s es t) (hend : t.emission = .idle) :
    (es.filterMap Event.called).Sublist s.signal.slots
      ∧ ∀ slot ∈ s.signal.slots, slot ∈ t.signal.slots → slot.target ∉ t.released →
        slot ∈ es.filterMap Event.called := by
  have hprogress : Progress s.signal.slots es t := by
    clear hend
    induction h with
    | nil => exact ⟨s.signal.lt_next, [], by simp [hem, Emission.left], .refl [], by simp⟩
    | snoc _ hc hs ih => exact progress_step ih hc hs
  obtain ⟨decided, hdecided, hsub, hall⟩ := hprogress.decided
  obtain rfl : s.signal.slots = decided := by simpa [hend, Emission.left] using hdecided
  exact ⟨hsub, hall⟩

variable [DecidableEq α]

/-- Whether the slot that is picked is one for `a`. -/
def picks (a : α) (x : Emission α) : ℕ := if x.Picks a then 1 else 0

/-- How many of the slots that have been called are for `a`. -/
def calls (a : α) (es : List (Event α)) : ℕ :=
  (es.filterMap Event.called).countP fun slot => slot.target = a

theorem calls_single (a : α) {e : Event α} (he : e.called = none) : calls a [e] = 0 := by
  simp [calls, he]

theorem picks_step {a : α} {signal : Signal α} {r : Set α} {x y : Emission α}
    {e : Emission.Event α} (hnone : ∀ slot ∈ signal.slots, slot.target ≠ a)
    (h : Emission.Step signal r x e y) : calls a [.emission e] + picks a y ≤ picks a x := by
  cases h with
  | pick hslot =>
    rw [calls_single a rfl]
    simp [picks, Emission.Picks, hnone _ hslot]
  | @call slot rest hslot =>
    by_cases ha : slot.target = a <;> simp [calls, Event.called, picks, Emission.Picks, ha]
  | _ =>
    rw [calls_single a rfl]
    simp [picks, Emission.Picks]

/-- While nothing connects a slot for `a`, no slot for it is called but one that has been picked
already. -/
theorem calls_le {a : α} (hnone : ∀ slot ∈ s.signal.slots, slot.target ≠ a)
    (h : (system α).Run (fun _ e => e ≠ .connect a) s es t) :
    (∀ slot ∈ t.signal.slots, slot.target ≠ a)
      ∧ calls a es + picks a t.emission ≤ picks a s.emission := by
  induction h with
  | nil => exact ⟨hnone, by simp [calls]⟩
  | @snoc u v es e _ hc hs ih =>
    obtain ⟨hnone, hle⟩ := ih
    have hcalls : calls a (es ++ [e]) = calls a es + calls a [e] := by simp [calls]
    rw [hcalls]
    cases hs with
    | emission hx =>
      have := picks_step hnone hx
      exact ⟨hnone, by simp only; omega⟩
    | @connect b =>
      have hb : b ≠ a := fun hb => hc (by rw [hb])
      refine ⟨fun slot hslot => ?_, by rwa [calls_single a rfl]⟩
      rcases Signal.mem_connect.1 hslot with hslot | rfl
      · exact hnone slot hslot
      · exact hb
    | disconnect =>
      exact ⟨fun slot hslot => hnone slot (Signal.mem_disconnect.1 hslot).1,
        by rwa [calls_single a rfl]⟩
    | release => exact ⟨hnone, by rwa [calls_single a rfl]⟩

end Signals
