import SensorityCollector.Proofs.SentOrder

/-!
# What the last day, week and month are

The three queries are gets that reach from so many days before the clock's time up to it. What is
put stays, so a get never delivers less than an earlier one whose range it covers.
-/

namespace SensorityCollector

open Sql Transition DataStorage

variable {V F κ : Type} {c : Numbers F} {p : Platform V F} {S : Sensor}

/-- How far a query goes back. -/
inductive Period
  | day
  | week
  | month
  deriving DecidableEq, Repr

namespace Period

def days : Period → ℤ
  | day => 1
  | week => 7
  | month => 30

/-- Its length in microseconds. -/
def length (P : Period) : ℤ := P.days * 86400000000

def low (P : Period) (now : Int64) : Int64 := now - DataAccessor.timespan (Int64.ofInt P.days)

end Period

variable [Zero F]

section runs

variable {T : Type*} [DecidableEq T] {a : Collected F κ} {w : World F κ} {t : T}
  {puts : List (List UInt8 × Option κ)} {clock : ℕ → Int64} {k k' : κ}

omit [Zero F] in
theorem committed_take (S : Sensor) (jobs : List (Job F κ × Faults c)) {i j : ℕ} (hij : i ≤ j) :
    committed S (jobs.take i) <+: committed S (jobs.take j) := by
  obtain ⟨rest, hrest⟩ := List.take_prefix_take_left (l := jobs) hij
  exact ⟨committed S rest, by rw [← hrest]; simp [committed]⟩

omit [Zero F] in
theorem Job.inRange_subset {low high low' high' : Int64} (hlow : low' ≤ low) (hhigh : high ≤ high')
    {readings readings' : List (S.Data F)} (h : readings <+: readings') :
    (Job.inRange S low high readings).Sublist (Job.inRange S low' high' readings') := by
  refine (h.sublist.filter _).trans (List.monotone_filter_right _ fun x hx => ?_)
  simp only [decide_eq_true_eq] at hx ⊢
  exact ⟨Int64.le_trans hlow hx.1, Int64.le_trans hx.2 hhigh⟩

/-- A get delivers all that an earlier one has delivered whose range it covers, whatever is put or
fails between them. -/
theorem get_grows (hw : Represents c a w) {es : List (Event (Job F κ) T (Faults c))}
    {s : State (Job F κ) T (World F κ)}
    (h : (system (config c) (Represents c a)).Run (fun _ _ => True) (fresh w) es s) {i j : ℕ}
    (hij : i ≤ j) (hf : j < s.finished.length) {low high low' high' : Int64}
    (hi : s.accepted[i]? = some (.get S low high (some k)))
    (hj : s.accepted[j]? = some (.get S low' high' (some k')))
    (hread : ∀ o, (choices es)[i]? = some o ∨ (choices es)[j]? = some o → o.ReadsWell)
    (hlow : low' ≤ low) (hhigh : high ≤ high') :
    ∃ model model' later later',
      s.world.calls = (a.runs ((s.accepted.zip (choices es)).take i)).calls
          ++ .get k (some ⟨S, model⟩) true :: later
        ∧ s.world.calls = (a.runs ((s.accepted.zip (choices es)).take j)).calls
          ++ .get k' (some ⟨S, model'⟩) true :: later'
        ∧ model.Subperm model' := by
  obtain ⟨o, later, ho, hcall⟩ := get_call hw h (hij.trans_lt hf) hi
  obtain ⟨o', later', ho', hcall'⟩ := get_call hw h hf hj
  refine ⟨_, _, later, later', hcall (hread o (.inl ho)), hcall' (hread o' (.inr ho')), ?_⟩
  refine (o.arrange_perm S _).subperm.trans (.trans ?_ (o'.arrange_perm S _).symm.subperm)
  refine (Job.inRange_subset hlow hhigh ?_).subperm
  exact (List.prefix_append_right_inj _).2 (committed_take S _ hij)

/-- A reading is put between the query for the last day and the one for the last week. -/
theorem get_grows_week :
    ∃ (s : State (Job ℤ ℕ) Unit (World ℤ ℕ)) (model model' : List (TemperatureData ℤ)),
      .get 7 (some ⟨.temperature, model⟩) true ∈ s.world.calls
        ∧ .get 8 (some ⟨.temperature, model'⟩) true ∈ s.world.calls ∧ model.Subperm model' := by
  obtain ⟨es, s, h, hes, ha, hf, -⟩ := exists_run (config whole)
    (Represents whole (.blank : Collected ℤ ℕ)) () .blank
    [(.put .temperature [⟨20, 21, 8⟩] none, .calm whole),
      (.get .temperature (Period.day.low 9) 9 (some 7), .calm whole),
      (.put .temperature [⟨22, 23, 10⟩] none, .calm whole),
      (.get .temperature (Period.week.low 12) 12 (some 8), .calm whole)]
  have hread : ∀ o, (choices es)[1]? = some o ∨ (choices es)[3]? = some o → o.ReadsWell := by
    rw [hes]
    rintro o (ho | ho) <;> cases ho <;> exact .calm whole
  obtain ⟨model, model', later, later', hcall, hcall', hsub⟩ := get_grows represents_blank h
    (i := 1) (j := 3) (by decide) (by rw [hf, ha]; decide) (by rw [ha]; rfl) (by rw [ha]; rfl)
    hread (by decide) (by decide)
  exact ⟨s, model, model', by rw [hcall]; simp, by rw [hcall']; simp, hsub⟩

end runs

end SensorityCollector
