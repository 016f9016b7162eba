import SensorityCollector.Proofs.StorageFifo

/-!
# What becomes of the session

Whatever the threads do, the session has been through the statements of `setUp()` and the runs of
the jobs that are finished, in their order, each under the choices its environment made for it.
-/

namespace SensorityCollector

open Transition

namespace DataStorage

variable {A J T W O : Type*}

def Event.choice : Event J T O → Option O
  | .run _ o => some o
  | _ => none

/-- The choices made for the jobs of a run, in their order. -/
def choices (es : List (Event J T O)) : List O := es.filterMap Event.choice

def replay (c : Config J W O) (w : W) (jobs : List (J × O)) : W :=
  jobs.foldl (fun w j => (c.run j.1 j.2 w).1) w

/-- `Rep a w` says that the world is as in the abstract `a`, `Ready n w` that the first `n`
statements of `setUp()` have been executed on it. Those change nothing in `a`; a job changes it by
`apply`, under choices that meet `C`. -/
structure Tracks (c : Config J W O) (C : O → Prop) (apply : J → O → A → A) (Rep : A → W → Prop)
    (Ready : ℕ → W → Prop) : Prop where
  zero : ∀ w, Ready 0 w
  mono : ∀ (m n : ℕ) (w : W), m ≤ n → Ready n w → Ready m w
  define : ∀ (n : ℕ) (f : W → W) (w : W), c.definitions[n]? = some f →
    (∀ a, Rep a w → Rep a (f w)) ∧ (Ready n w → Ready (n + 1) (f w))
      ∧ ∀ m, Ready m w → Ready m (f w)
  run : ∀ (j : J) (o : O) (a : A) (w : W), C o → Ready c.definitions.length w → Rep a w →
    Rep (apply j o a) (c.run j o w).1 ∧ Ready c.definitions.length (c.run j o w).1

/-- Some worker has been started, or is about to be. -/
def State.setUpDone (s : State J T W) : Prop :=
  s.active = true ∨ s.owner = .spawn ∨ ∃ k, s.workers k ≠ .unborn

/-- The statements of `setUp()` that have been executed so far. -/
structure Defined (c : Config J W O) (Ready : ℕ → W → Prop) (s : State J T W) : Prop where
  creating : ∀ n, s.owner = .creating n → n ≤ c.definitions.length ∧ Ready n s.world
  done : s.setUpDone → Ready c.definitions.length s.world

section

variable {c : Config J W O} {C : O → Prop} {apply : J → O → A → A} {Rep : A → W → Prop}
  {Ready : ℕ → W → Prop} {s s' : State J T W} {a : A}

theorem Defined.frame (h : Defined c Ready s) (hw : s'.world = s.world)
    (ho : ∀ n, s'.owner = .creating n → s.owner = .creating n) (hd : s'.setUpDone → s.setUpDone) :
    Defined c Ready s' :=
  ⟨fun n hn => hw ▸ h.creating n (ho n hn), fun hn => hw ▸ h.done (hd hn)⟩

theorem setUpDone_worker {k : ℕ} {w : Loop J} (hk : s.workers k = w) (hw : w ≠ .unborn) :
    s.setUpDone := .inr (.inr ⟨k, hk ▸ hw⟩)

theorem setUpDone_owner (hd : s'.setUpDone) (ha : s'.active = true → s.active = true)
    (ho : s'.owner ≠ .spawn) (hw : s'.workers = s.workers) : s.setUpDone := by
  rcases hd with h | h | ⟨k, hk⟩
  · exact .inl (ha h)
  · exact absurd h ho
  · exact .inr (.inr ⟨k, hw ▸ hk⟩)

theorem setUpDone_notifyOne {u v : State J T W} (hn : NotifyOne u v) (hd : v.setUpDone) :
    u.setUpDone := by
  cases hn with
  | lost _ => exact hd
  | wakes hk => exact setUpDone_worker hk (by simp)

theorem loop_frame {k : ℕ} (hs : LoopStep k s s') : ∃ w, s.workers k = w ∧ w ≠ .unborn
    ∧ s'.world = s.world ∧ s'.owner = s.owner ∧ s'.finished = s.finished := by
  cases hs <;> exact ⟨_, by assumption, by simp, rfl, rfl, rfl⟩

theorem Defined.own (H : Tracks c C apply Rep Ready) (h : Defined c Ready s) (hr : Rep a s.world)
    (hs : OwnerStep c s s') :
    Defined c Ready s' ∧ s'.finished = s.finished ∧ Rep a s'.world := by
  cases hs with
  | accept _ _ =>
    refine ⟨⟨?_, fun hd => h.done (setUpDone_owner hd id (by simp) rfl)⟩, rfl, hr⟩
    rintro n ⟨⟩
    exact ⟨Nat.zero_le _, H.zero _⟩
  | @create n f ho hf =>
    obtain ⟨hrep, hnext, hkeep⟩ := H.define n f s.world hf
    obtain ⟨-, hn⟩ := h.creating n ho
    refine ⟨⟨?_, fun hd => hkeep _ (h.done (setUpDone_owner hd id (by simp) rfl))⟩, rfl, hrep a hr⟩
    rintro _ ⟨⟩
    exact ⟨(List.getElem?_eq_some_iff.1 hf).1, hnext hn⟩
  | @activate n ho hf =>
    obtain ⟨-, hn⟩ := h.creating n ho
    have hall : Ready c.definitions.length s.world :=
      H.mono _ n _ (List.getElem?_eq_none_iff.1 hf) hn
    refine ⟨⟨?_, fun _ => hall⟩, rfl, hr⟩
    rintro _ ⟨⟩
  | spawn ho => exact ⟨h.frame rfl (by rintro _ ⟨⟩) fun _ => .inr (.inl ho), rfl, hr⟩
  | @notify s'' ho hn =>
    have hw := (notified hn).world
    refine ⟨h.frame hw (by simp) fun hd' => setUpDone_notifyOne hn ?_, (notified hn).finished,
      by simpa [hw] using hr⟩
    exact setUpDone_owner hd' id (by simp) rfl
  | clear _ =>
    exact ⟨h.frame rfl (by simp) fun hd => setUpDone_owner hd (by simp) (by simp) rfl, rfl, hr⟩
  | _ => exact ⟨h.frame rfl (by simp) fun hd => setUpDone_owner hd id (by simp) rfl, rfl, hr⟩

theorem Defined.fresh (w : W) : Defined c Ready (fresh (T := T) w) :=
  ⟨by rintro _ ⟨⟩, by rintro (h | h | ⟨k, hk⟩) <;> simp_all [DataStorage.fresh]⟩

theorem choices_append (es fs : List (Event J T O)) :
    choices (es ++ fs) = choices es ++ choices fs := List.filterMap_append

theorem choices_snoc (es : List (Event J T O)) (e : Event J T O) :
    choices (es ++ [e]) = choices es ++ e.choice.toList := by
  rw [choices_append]
  cases he : e.choice <;> simp [choices, he]

variable [DecidableEq T]

/-- A step either runs a job or leaves the abstract state as it is. -/
theorem Defined.step {e : Event J T O} (H : Tracks c C apply Rep Ready) (hi : Inv s)
    (h : Defined c Ready s) (hC : ∀ o ∈ e.choice, C o) (hr : Rep a s.world) (hs : Step c s e s') :
    Defined c Ready s' ∧ match e.choice with
      | none => s'.finished = s.finished ∧ Rep a s'.world
      | some o => ∃ job, s'.finished = s.finished ++ [job] ∧ Rep (apply job o a) s'.world := by
  have hrun : ∀ job {k o w}, s.workers k = .running none → e = .run k o →
      w = (c.run job o s.world).1 →
      Rep (apply job o a) w ∧ Ready c.definitions.length w := by
    rintro job k o w hk rfl rfl
    have hready := h.done (setUpDone_worker hk (by simp))
    exact H.run job o a _ (hC o (by simp [Event.choice])) hready hr
  cases hs with
  | call _ => exact ⟨h.frame rfl (fun _ => id) id, rfl, hr⟩
  | process _ hp =>
    cases hp with
    | notify hn =>
      obtain ⟨hw, -, -, -, ho, -, -, -, hf⟩ := notified hn
      exact ⟨h.frame hw (fun n hn' => ho ▸ hn') fun hd => setUpDone_notifyOne hn hd, hf,
        by simpa [State.setProducer, hw] using hr⟩
    | _ => exact ⟨h.frame rfl (fun _ => id) id, rfl, hr⟩
  | work hw =>
    obtain ⟨w, hk, hb, hworld, ho, hf⟩ := loop_frame hw
    exact ⟨h.frame hworld (fun n hn => ho ▸ hn) fun _ => setUpDone_worker hk hb, hf, hworld ▸ hr⟩
  | wake hk => exact ⟨h.frame rfl (fun _ => id) fun _ => setUpDone_worker hk (by simp), rfl, hr⟩
  | @run k o job _ hk _ _ =>
    obtain ⟨hrep, hall⟩ := hrun job hk rfl rfl
    exact ⟨⟨fun n hn => ⟨(h.creating n hn).1, H.mono _ _ _ (h.creating n hn).1 hall⟩,
      fun _ => hall⟩, _, rfl, hrep⟩
  | @caught k o job _ hk _ _ =>
    obtain ⟨hrep, hall⟩ := hrun job hk rfl rfl
    exact ⟨⟨fun n hn => ⟨(h.creating n hn).1, H.mono _ _ _ (h.creating n hn).1 hall⟩,
      fun _ => hall⟩, _, rfl, hrep⟩
  | reenter hk => exact ⟨h.frame rfl (fun _ => id) fun _ => setUpDone_worker hk (by simp), rfl, hr⟩
  | nested hk hp => exact absurd hp (hi.not_nested hk)
  | setUp _ => exact ⟨h.frame rfl (by simp) fun hd => setUpDone_owner hd id (by simp) rfl, rfl, hr⟩
  | tearDown _ =>
    exact ⟨h.frame rfl (by simp) fun hd => setUpDone_owner hd id (by simp) rfl, rfl, hr⟩
  | own ho => exact h.own H hr ho
  | spawnThrows _ =>
    exact ⟨h.frame rfl (by simp) fun hd => setUpDone_owner hd id (by simp) rfl, rfl, hr⟩
  | returned hr' =>
    cases hr' <;>
      exact ⟨h.frame rfl (by simp) fun hd => setUpDone_owner hd id (by simp) rfl, rfl, hr⟩

/-- The world of a run is as in the abstract state after the jobs that are finished. -/
theorem tracks_run (H : Tracks c C apply Rep Ready) {w₀ : W → Prop} {w : W} (hw : w₀ w)
    {es : List (Event J T O)} (hr : Rep a w) (hC : ∀ o ∈ choices es, C o)
    (h : (system c w₀).Run (fun _ _ => True) (DataStorage.fresh w) es s) :
    Defined c Ready s ∧ s.finished.length = (choices es).length
      ∧ Rep ((s.finished.zip (choices es)).foldl (fun a j => apply j.1 j.2 a) a) s.world := by
  induction h with
  | nil => exact ⟨.fresh w, rfl, hr⟩
  | @snoc t u es e hrun _ hst ih =>
    rw [choices_snoc] at hC ⊢
    obtain ⟨hd, hlen, hrep⟩ := ih fun o ho => hC o (List.mem_append_left _ ho)
    have hi := inv_reachable (hrun.reachableBy (.init ⟨w, hw, rfl⟩))
    have hs := hd.step H hi (fun o ho => hC o (List.mem_append_right _ (by simpa using ho)))
      hrep hst
    cases hc : e.choice with
    | none =>
      simp only [hc] at hs
      obtain ⟨hd', hf, hrep'⟩ := hs
      exact ⟨hd', by simp [hf, hlen], by simpa [hf] using hrep'⟩
    | some o =>
      simp only [hc] at hs
      obtain ⟨hd', job, hf, hrep'⟩ := hs
      refine ⟨hd', by simp [hf, hlen], ?_⟩
      rw [hf, Option.toList_some, List.zip_append hlen, List.foldl_append]
      exact hrep'

end

end DataStorage

end SensorityCollector
