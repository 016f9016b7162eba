import Mathlib.Tactic

/-!
# Batches of jobs

Everything on a list makes a batch of jobs, and every job contributes something. Where at most one
job of a batch has anything to contribute, a batch counts as a whole or not at all: the jobs left of
all batches when some are skipped contribute what some of the batches do, and those before a cut
what the first ones do.
-/

namespace Batches

variable {α β γ : Type*} {f : α → List β} {g : β → List γ}

/-- Whichever of the jobs are done, they contribute nothing or all there is. -/
def Whole (g : β → List γ) (js : List β) : Prop :=
  ∀ l : List β, l.Sublist js → l.flatMap g = [] ∨ l.flatMap g = js.flatMap g

theorem Whole.of_middle {before js after : List β} (hbefore : ∀ j ∈ before, g j = [])
    (hafter : ∀ j ∈ after, g j = []) (hjs : js.length ≤ 1) :
    Whole g (before ++ js ++ after) := by
  have hnone : ∀ {l js : List β}, l.Sublist js → (∀ j ∈ js, g j = []) → l.flatMap g = [] :=
    fun hl hjs => List.flatMap_eq_nil_iff.2 fun j hj => hjs j (hl.subset hj)
  intro l hl
  obtain ⟨l', l₃, rfl, hl', h₃⟩ := List.sublist_append_iff.1 hl
  obtain ⟨l₁, l₂, rfl, h₁, h₂⟩ := List.sublist_append_iff.1 hl'
  simp only [List.flatMap_append, hnone h₁ hbefore, hnone h₃ hafter,
    hnone (.refl before) hbefore, hnone (.refl after) hafter, List.nil_append, List.append_nil]
  rcases l₂ with _ | ⟨j, l₂⟩
  · exact .inl rfl
  · have hlen : js.length ≤ (j :: l₂).length := by simp only [List.length_cons]; omega
    rw [h₂.eq_of_length_le hlen]
    exact .inr rfl

/-- Of what is skipped, whole batches are left. -/
theorem exists_sublist (hf : ∀ x, Whole g (f x)) :
    ∀ {xs : List α} {l : List β}, l.Sublist (xs.flatMap f) →
      ∃ kept : List α, kept.Sublist xs ∧ l.flatMap g = kept.flatMap fun x => (f x).flatMap g
  | [], l, h => ⟨[], .refl _, by simp [List.sublist_nil.1 h]⟩
  | x :: xs, l, h => by
    rw [List.flatMap_cons] at h
    obtain ⟨l₁, l₂, rfl, h₁, h₂⟩ := List.sublist_append_iff.1 h
    obtain ⟨kept, hkept, hl⟩ := exists_sublist hf h₂
    rcases hf x l₁ h₁ with hx | hx
    · exact ⟨kept, hkept.cons x, by rw [List.flatMap_append, hx, hl, List.nil_append]⟩
    · exact ⟨x :: kept, hkept.cons_cons x, by rw [List.flatMap_append, hx, hl, List.flatMap_cons]⟩

/-- A cut goes through one batch. -/
theorem exists_cut :
    ∀ {xs : List α} {l : List β}, l <+: xs.flatMap f →
      ∃ n part, l = (xs.take n).flatMap f ++ part ∧ part <+: ((xs.drop n).take 1).flatMap f
  | [], l, h => ⟨0, l, rfl, h⟩
  | x :: xs, l, h => by
    rw [List.flatMap_cons] at h
    rcases List.prefix_or_prefix_of_prefix h (List.prefix_append (f x) _) with hx | ⟨l', rfl⟩
    · exact ⟨0, l, rfl, by simpa using hx⟩
    · obtain ⟨n, part, rfl, hpart⟩ := exists_cut ((List.prefix_append_right_inj _).1 h)
      exact ⟨n + 1, part, by simp, by simpa using hpart⟩

/-- The batch with the cut counts or does not. -/
theorem flatMap_cut (hf : ∀ x, Whole g (f x)) {xs : List α} {n : ℕ} {part : List β}
    (h : part <+: ((xs.drop n).take 1).flatMap f) :
    ((xs.take n).flatMap f ++ part).flatMap g = (xs.take n).flatMap (fun x => (f x).flatMap g)
      ∨ ((xs.take n).flatMap f ++ part).flatMap g
        = (xs.take (n + 1)).flatMap fun x => (f x).flatMap g := by
  have htake : xs.take (n + 1) = xs.take n ++ (xs.drop n).take 1 := List.take_add
  rw [List.flatMap_append, List.flatMap_assoc, htake, List.flatMap_append]
  rcases hd : xs.drop n with _ | ⟨x, rest⟩
  · rw [hd] at h
    obtain rfl : part = [] := by simpa using h
    exact .inl (List.append_nil _)
  · rw [hd] at h
    have hpart : part <+: f x := by simpa using h
    rcases hf x part hpart.sublist with hx | hx
    · exact .inl (by rw [hx, List.append_nil])
    · exact .inr (by rw [hx]; simp)

end Batches
