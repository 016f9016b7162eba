import Mathlib.Tactic

/-!
# Transition systems

A system is where it may start and which event takes which state to which. What is proved of it
is proved of one step (`ReachableBy.invariant`), over every run or over the runs whose steps all
meet a condition, or is read off a simpler system that it simulates (`Simulation.reachable`).
-/

namespace Transition

variable {σ τ ε δ : Type*}

/-- Where a system may start, and which event takes which state to which. -/
structure System (σ ε : Type*) where
  init : σ → Prop
  step : σ → ε → σ → Prop

namespace System

variable (S : System σ ε)

/-- The states of the runs whose steps all meet `C`. -/
inductive ReachableBy (C : σ → ε → Prop) : σ → Prop
  | init {s : σ} : S.init s → ReachableBy C s
  | step {s t : σ} {e : ε} : ReachableBy C s → C s e → S.step s e t → ReachableBy C t

abbrev Reachable : σ → Prop := S.ReachableBy fun _ _ => True

/-- The events `es` take `s` to `t`, by steps that all meet `C`. -/
inductive Run (C : σ → ε → Prop) : σ → List ε → σ → Prop
  | nil (s : σ) : Run C s [] s
  | snoc {s t u : σ} {es : List ε} {e : ε} :
      Run C s es t → C t e → S.step t e u → Run C s (es ++ [e]) u

variable {S} {C D : σ → ε → Prop}

theorem Reachable.next {s t : σ} {e : ε} (h : S.Reachable s) (hs : S.step s e t) :
    S.Reachable t := .step h trivial hs

theorem ReachableBy.mono (hCD : ∀ s e, C s e → D s e) {s : σ} (h : S.ReachableBy C s) :
    S.ReachableBy D s := by
  induction h with
  | init hi => exact .init hi
  | step _ hc hs ih => exact .step ih (hCD _ _ hc) hs

theorem ReachableBy.reachable {s : σ} (h : S.ReachableBy C s) : S.Reachable s :=
  h.mono fun _ _ _ => trivial

/-- What holds at the start and is kept by every step that meets `C` holds throughout. -/
theorem ReachableBy.invariant {P : σ → Prop} (h0 : ∀ s, S.init s → P s)
    (hs : ∀ s e t, S.ReachableBy C s → P s → C s e → S.step s e t → P t) {s : σ}
    (h : S.ReachableBy C s) : P s := by
  induction h with
  | init hi => exact h0 _ hi
  | step hr hc hst ih => exact hs _ _ _ hr ih hc hst

theorem Run.mono (hCD : ∀ s e, C s e → D s e) {s t : σ} {es : List ε} (h : S.Run C s es t) :
    S.Run D s es t := by
  induction h with
  | nil => exact .nil _
  | snoc _ hc hs ih => exact .snoc ih (hCD _ _ hc) hs

theorem Run.reachableBy {s t : σ} {es : List ε} (hs : S.ReachableBy C s) (h : S.Run C s es t) :
    S.ReachableBy C t := by
  induction h with
  | nil => exact hs
  | snoc _ hc hst ih => exact .step ih hc hst

/-- What every step that meets `C` keeps, a run of such steps keeps. -/
theorem Run.invariant {P : σ → Prop}
    (hs : ∀ s e t, P s → C s e → S.step s e t → P t) {s t : σ} {es : List ε}
    (h : S.Run C s es t) (hp : P s) : P t := by
  induction h with
  | nil => exact hp
  | snoc _ hc hst ih => exact hs _ _ _ ih hc hst

theorem ReachableBy.exists_run {t : σ} (h : S.ReachableBy C t) :
    ∃ s es, S.init s ∧ S.Run C s es t := by
  induction h with
  | init hi => exact ⟨_, [], hi, .nil _⟩
  | step _ hc hs ih =>
    obtain ⟨s, es, hi, hr⟩ := ih
    exact ⟨s, _, hi, .snoc hr hc hs⟩

theorem Run.append {s t u : σ} {es fs : List ε} (h : S.Run C s es t) (h' : S.Run C t fs u) :
    S.Run C s (es ++ fs) u := by
  induction h' with
  | nil => simpa using h
  | snoc _ hc hs ih =>
    rw [← List.append_assoc]
    exact .snoc ih hc hs

/-- A run passes through the state before and the state after each of its events. -/
theorem Run.split {s t : σ} {es : List ε} {e : ε} (h : S.Run C s es t) (he : e ∈ es) :
    ∃ es₁ es₂ u v, es = es₁ ++ [e] ++ es₂ ∧ S.Run C s es₁ u ∧ C u e ∧ S.step u e v
      ∧ S.Run C v es₂ t := by
  induction h with
  | nil => simp at he
  | @snoc u t es e' hr hc hs ih =>
    rcases List.mem_append.1 he with he | he
    · obtain ⟨es₁, es₂, v, w, rfl, h1, hcv, h2, h3⟩ := ih he
      exact ⟨es₁, es₂ ++ [e'], v, w, by simp, h1, hcv, h2, .snoc h3 hc hs⟩
    · obtain rfl : e = e' := by simpa using he
      exact ⟨es, [], u, t, by simp, hr, hc, hs, .nil t⟩

/-- A run computed by a function all of whose values are steps that meet `C`. -/
theorem Run.of_foldlM {f : σ → ε → Option σ} (hf : ∀ s e t, f s e = some t → C s e ∧ S.step s e t)
    {s t : σ} {es : List ε} (h : es.foldlM f s = some t) : S.Run C s es t := by
  induction es generalizing s with
  | nil =>
    obtain rfl : s = t := by simpa using h
    exact .nil s
  | cons e es ih =>
    rw [List.foldlM_cons] at h
    obtain ⟨u, hu, h⟩ := Option.bind_eq_some_iff.1 h
    obtain ⟨hc, hs⟩ := hf s e u hu
    exact (Run.snoc (.nil s) hc hs).append (ih h)

/-- A run seen in another system, in which each of its steps is one step or none. -/
theorem Run.project {A : System τ δ} {f : σ → τ} {g : ε → Option δ}
    (hstep : ∀ s e t, S.step s e t → match g e with
      | some d => A.step (f s) d (f t)
      | none => f t = f s) {s t : σ} {es : List ε} (h : S.Run C s es t) :
    A.Run (fun _ _ => True) (f s) (es.filterMap g) (f t) := by
  induction h with
  | nil => exact .nil _
  | @snoc t u es e hr hc hs ih =>
    have := hstep t e u hs
    rw [List.filterMap_append]
    rcases hg : g e with _ | d
    · simp only [hg] at this
      simpa [hg, this] using ih
    · simp only [hg] at this
      simpa [hg] using ih.snoc trivial this

theorem Run.of_step {s t : σ} {es : List ε} (h : S.Run C s es t) (S' : System σ ε)
    (hstep : ∀ s e t, S.step s e t → S'.step s e t) : S'.Run C s es t := by
  induction h with
  | nil => exact .nil _
  | snoc _ hc hs ih => exact .snoc ih hc (hstep _ _ _ hs)

theorem Run.single {s t : σ} {e : ε} (hc : C s e) (hs : S.step s e t) : S.Run C s [e] t :=
  .snoc (.nil s) hc hs

theorem Run.of_forall {P : ε → Prop} {s t : σ} {es : List ε}
    (h : S.Run (fun _ _ => True) s es t) (hes : ∀ e ∈ es, P e) : S.Run (fun _ e => P e) s es t := by
  induction h with
  | nil => exact .nil _
  | snoc _ _ hs ih =>
    exact .snoc (ih fun e he => hes e (List.mem_append_left _ he)) (hes _ (by simp)) hs

/-- While steps that meet `C` keep `I`, each of them takes one from what is left to do. -/
theorem Run.length_add {I : σ → Prop} {left : σ → ℕ}
    (hstep : ∀ s e t, I s → C s e → S.step s e t → I t ∧ left t + 1 = left s) {s t : σ}
    {es : List ε} (h : S.Run C s es t) (hi : I s) : I t ∧ left t + es.length = left s := by
  induction h with
  | nil => exact ⟨hi, rfl⟩
  | snoc _ hc hs ih =>
    obtain ⟨hi', hleft⟩ := ih
    obtain ⟨ht, hone⟩ := hstep _ _ _ hi' hc hs
    refine ⟨ht, ?_⟩
    rw [List.length_append, List.length_singleton]
    omega

/-- With a step at hand wherever something is left to do, some run leaves nothing. -/
theorem exists_run_left {I : σ → Prop} {left : σ → ℕ}
    (hstep : ∀ s e t, I s → C s e → S.step s e t → I t ∧ left t + 1 = left s)
    (hnext : ∀ s, I s → left s ≠ 0 → ∃ e t, C s e ∧ S.step s e t) {s : σ} (hi : I s) :
    ∃ es t, S.Run C s es t ∧ left t = 0 := by
  obtain ⟨n, hn⟩ : ∃ n, left s = n := ⟨_, rfl⟩
  induction n generalizing s with
  | zero => exact ⟨[], s, .nil s, hn⟩
  | succ n ih =>
    obtain ⟨e, t, hc, hs⟩ := hnext s hi (by omega)
    obtain ⟨ht, hone⟩ := hstep s e t hi hc hs
    obtain ⟨es, u, hr, hu⟩ := ih ht (by omega)
    exact ⟨[e] ++ es, u, (Run.single hc hs).append hr, hu⟩

end System

/-- `R` relates each state of `S` that a run meeting `C` reaches to a state of `A`, and each such
step of `S` to no step or one step of `A`. -/
structure Simulation (S : System σ ε) (C : σ → ε → Prop) (A : System τ δ) (R : σ → τ → Prop) :
    Prop where
  init : ∀ s, S.init s → ∃ a, A.init a ∧ R s a
  step : ∀ s e t a, S.ReachableBy C s → R s a → C s e → S.step s e t →
    R t a ∨ ∃ d b, A.step a d b ∧ R t b

/-- What `S` reaches, `A` reaches a state related to. -/
theorem Simulation.reachable {S : System σ ε} {C : σ → ε → Prop} {A : System τ δ}
    {R : σ → τ → Prop} (H : Simulation S C A R) {s : σ} (h : S.ReachableBy C s) :
    ∃ a, A.Reachable a ∧ R s a := by
  induction h with
  | init hi =>
    obtain ⟨a, ha, hR⟩ := H.init _ hi
    exact ⟨a, .init ha, hR⟩
  | step hr hc hst ih =>
    obtain ⟨a, ha, hR⟩ := ih
    rcases H.step _ _ _ a hr hR hc hst with hR' | ⟨d, b, hd, hR'⟩
    · exact ⟨a, ha, hR'⟩
    · exact ⟨b, ha.next hd, hR'⟩

end Transition
