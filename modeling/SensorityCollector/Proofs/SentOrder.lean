import SensorityCollector.Proofs.Ingestion

/-!
# Whether readings come back in the order they were sent

A reading's place is told by its timestamp alone, and the statement sorts by nothing else. What a
thread puts comes back in its order from every get that covers it exactly if elements read at the
same time say the same: of two that differ, the database may deliver the later one first.
-/

namespace SensorityCollector

open Sql Transition DataStorage

variable {V F κ : Type} {c : Numbers F} {p : Platform V F} {S : Sensor} {clock : ℕ → Int64}
  {inputs : List (List UInt8)}

/-- The elements of an input that are readings, their timestamps still open. -/
def Schema.elements {T : Type} (p : Platform V F) (s : Schema F T) (input : List UInt8) :
    List (Int64 → T) :=
  match p.parse input with
  | some (.array items) => items.filterMap (s.reading p)
  | _ => []

theorem Schema.readings_eq {T : Type} (p : Platform V F) (s : Schema F T) (clock : ℕ → Int64)
    (input : List UInt8) :
    s.readings p clock input = (s.elements p input).mapIdx fun n x => x (clock n) := by
  unfold Schema.readings Schema.elements
  rcases p.parse input with _ | _ | items | members <;> rfl

variable [Zero F]

namespace Sensor

/-- What the puts send, in their order: every element is read at the next reading of the clock. -/
def sent (p : Platform V F) (S : Sensor) (clock : ℕ → Int64) (inputs : List (List UInt8)) :
    List (S.Data F) :=
  (inputs.flatMap (S.accessor.elements p)).mapIdx fun n x => x (clock n)

/-- Elements that are read at the same time say the same. -/
def Untied (p : Platform V F) (S : Sensor) (clock : ℕ → Int64) (inputs : List (List UInt8)) :
    Prop :=
  ∀ i j x y, (inputs.flatMap ((S.accessor (F := F)).elements p))[i]? = some x →
    (inputs.flatMap (S.accessor.elements p))[j]? = some y → clock i = clock j →
      x (clock i) = y (clock j)

end Sensor

/-- The jobs of a thread that makes the puts one after the other. Each has read the clock once for
every reading of its model, from `tick` on. -/
def DataAccessor.putAll (p : Platform V F) (S : Sensor) (clock : ℕ → Int64) :
    ℕ → List (List UInt8 × Option κ) → List (Job F κ)
  | _, [] => []
  | tick, (input, callback) :: puts =>
    (Effects.of (put p S (fun n => clock (tick + n)) input callback none)).processed
      ++ putAll p S clock (tick + (TypedDataModel.parseArray p S.accessor
          (fun n => clock (tick + n)) [] input).2.length) puts

section elements

theorem Sensor.reading_timestamp {item : Var V} {x : Int64 → S.Data F}
    (h : S.accessor.reading p item = some x) (t : Int64) : S.timestamp (x t) = t := by
  cases ha : S.accepts p item with
  | false => simp [Sensor.reading_of_refuses ha] at h
  | true =>
    obtain ⟨y, hy, hr⟩ := Sensor.reading_of_accepts (F := F) ha
    obtain rfl : y = x := by simpa [hy] using h
    exact (hr t).1

theorem Sensor.elements_timestamp {input : List UInt8} {x : Int64 → S.Data F}
    (h : x ∈ S.accessor.elements p input) (t : Int64) : S.timestamp (x t) = t := by
  unfold Schema.elements at h
  split at h
  · obtain ⟨item, -, hx⟩ := List.mem_filterMap.1 h
    exact Sensor.reading_timestamp hx t
  · cases h

theorem DataAccessor.put_model (S : Sensor) (clock : ℕ → Int64) (input : List UInt8)
    (callback : Option κ) :
    (Effects.of (put p S clock input callback none)).processed.flatMap (Ingestion.model S)
      = S.accessor.readings p clock input := by
  rw [effects_put]
  rcases hp : p.parse input with _ | _ | items | members
  · simp [Schema.readings, hp]
  · simp [Schema.readings, hp]
  · simp [Ingestion.model, S.parseItems_eq hp]
  · simp [Schema.readings, hp]

/-- The puts of a thread store what it sends. -/
theorem DataAccessor.putAll_models (S : Sensor) (clock : ℕ → Int64) (tick : ℕ)
    (puts : List (List UInt8 × Option κ)) :
    (putAll p S clock tick puts).flatMap (Ingestion.model S)
      = ((puts.map Prod.fst).flatMap (S.accessor.elements p)).mapIdx
          fun n x => x (clock (tick + n)) := by
  induction puts generalizing tick with
  | nil => rfl
  | cons put puts ih =>
    rw [putAll, List.flatMap_append, put_model, ih, Sensor.parseArray_eq, Schema.readings_eq,
      List.length_mapIdx, List.map_cons, List.flatMap_cons, List.mapIdx_append]
    simp [Nat.add_comm, Nat.add_left_comm]

theorem DataAccessor.putAll_sent (S : Sensor) (clock : ℕ → Int64)
    (puts : List (List UInt8 × Option κ)) :
    (putAll p S clock 0 puts).flatMap (Ingestion.model S)
      = S.sent p clock (puts.map Prod.fst) := by
  simp [putAll_models, Sensor.sent]

end elements

section order

theorem Sensor.sent_get {n : ℕ} {x : S.Data F} (h : (S.sent p clock inputs)[n]? = some x) :
    ∃ y, (inputs.flatMap (S.accessor.elements p))[n]? = some y ∧ x = y (clock n)
      ∧ S.timestamp x = clock n := by
  rw [Sensor.sent, List.getElem?_mapIdx, Option.map_eq_some_iff] at h
  obtain ⟨y, hy, rfl⟩ := h
  obtain ⟨input, -, hinput⟩ := List.mem_flatMap.1 (List.mem_of_getElem? hy)
  exact ⟨y, hy, rfl, Sensor.elements_timestamp hinput _⟩

theorem Sensor.sent_sorted (hclock : ∀ m n, m ≤ n → clock m ≤ clock n) (S : Sensor)
    (inputs : List (List UInt8)) :
    (S.sent p clock inputs).Pairwise fun x y => S.timestamp x ≤ S.timestamp y := by
  rw [List.pairwise_iff_getElem]
  intro i j hi hj hij
  obtain ⟨-, -, -, hx⟩ := Sensor.sent_get (List.getElem?_eq_getElem hi)
  obtain ⟨-, -, -, hy⟩ := Sensor.sent_get (List.getElem?_eq_getElem hj)
  rw [hx, hy]
  exact hclock i j hij.le

theorem Sensor.untied_iff : S.Untied p clock inputs ↔ ∀ x ∈ S.sent p clock inputs,
    ∀ y ∈ S.sent p clock inputs, S.timestamp x = S.timestamp y → x = y := by
  constructor
  · intro h x hx y hy ht
    obtain ⟨i, hi⟩ := List.mem_iff_getElem?.1 hx
    obtain ⟨j, hj⟩ := List.mem_iff_getElem?.1 hy
    obtain ⟨x', hi', rfl, htx⟩ := Sensor.sent_get hi
    obtain ⟨y', hj', rfl, hty⟩ := Sensor.sent_get hj
    exact h i j x' y' hi' hj' (htx.symm.trans (ht.trans hty))
  · intro h i j x y hi hj ht
    have hx : (S.sent p clock inputs)[i]? = some (x (clock i)) := by simp [Sensor.sent, hi]
    have hy : (S.sent p clock inputs)[j]? = some (y (clock j)) := by simp [Sensor.sent, hj]
    obtain ⟨-, -, -, htx⟩ := Sensor.sent_get hx
    obtain ⟨-, -, -, hty⟩ := Sensor.sent_get hy
    exact h _ (List.mem_of_getElem? hx) _ (List.mem_of_getElem? hy) (by rw [htx, hty, ht])

variable {readings : List (S.Data F)}

/-- The statement keeps the order of readings that are sorted and untied, whatever else there is. -/
theorem Faults.arrange_keeps (o : Faults c) {sent : List (S.Data F)}
    (hsub : sent.Sublist readings)
    (hsorted : sent.Pairwise fun x y => S.timestamp x ≤ S.timestamp y)
    (hties : ∀ x ∈ sent, ∀ y ∈ sent, S.timestamp x = S.timestamp y → x = y) :
    sent.Sublist (o.arrange S readings) := by
  have hsort : (sent.map (S.accessor.row c S.definition)).Sublist
      (o.order.sort (readings.map (S.accessor.row c S.definition))) := by
    refine o.order.sublist_sort (hsub.map _) ?_ ?_
    · rw [List.pairwise_map]
      simpa only [S.lawful.key] using hsorted
    · intro a ha b hb hk
      obtain ⟨x, hx, rfl⟩ := List.mem_map.1 ha
      obtain ⟨y, hy, rfl⟩ := List.mem_map.1 hb
      simp only [S.lawful.key] at hk
      rw [hties x hx y hy hk]
  have hmap := hsort.map (S.accessor.ofRow c)
  simpa [Faults.arrange, Function.comp_def, Sensor.ofRow_row] using hmap

/-- Of two tied readings the statement may deliver either first. -/
theorem Faults.arrange_first [DecidableEq (Row F)] {o : Faults c} {x y : S.Data F}
    (ho : o.order = .first _ (S.accessor.row c S.definition y))
    (h : [x, y].Sublist (o.arrange S readings)) (ht : S.timestamp x = S.timestamp y) : x = y := by
  obtain ⟨l, hl, hmap⟩ := List.sublist_map_iff.1 h
  rcases l with _ | ⟨a, _ | ⟨b, _ | _⟩⟩
  · simp at hmap
  · simp at hmap
  · obtain ⟨rfl, rfl⟩ : x = S.accessor.ofRow c a ∧ y = S.accessor.ofRow c b := by simpa using hmap
    have hrow : ∀ r ∈ [a, b], S.accessor.row c S.definition (S.accessor.ofRow c r) = r := by
      intro r hr
      obtain ⟨z, -, rfl⟩ := List.mem_map.1 ((o.order.perm _).mem_iff.1 (hl.subset hr))
      rw [Sensor.ofRow_row]
    rw [ho, hrow b (by simp)] at hl
    have hab : a = b := by
      refine OrderBy.eq_of_sublist_first hl ?_
      rw [← hrow a (by simp), ← hrow b (by simp), S.lawful.key, S.lawful.key, ht]
    rw [hab]
  · simp at hmap

end order

section runs

variable {T : Type*} [DecidableEq T] {a : Collected F κ} {w : World F κ} {t : T}
  {puts : List (List UInt8 × Option κ)} {low high : Int64} {k : κ}

/-- No statement of the puts and of the get throws. All callbacks may, and other jobs. -/
def Unhindered (puts : List (Job F κ)) (get : Job F κ) (jobs : List (Job F κ × Faults c)) : Prop :=
  ∀ j ∈ jobs, (j.1 ∈ puts → ∀ n, j.2.put n = none) ∧ (j.1 = get → j.2.ReadsWell)

/-- Whatever the threads do: a get that is accepted after `t` has made the puts, and has been run,
has delivered their readings in their order, other readings perhaps between them. -/
def DeliveredInOrder (c : Numbers F) (p : Platform V F) (S : Sensor) (clock : ℕ → Int64)
    (a : Collected F κ) (w : World F κ) (t : T) (puts : List (List UInt8 × Option κ))
    (low high : Int64) (k : κ) : Prop :=
  ∀ (es es' : List (Event (Job F κ) T (Faults c))) (u s : State (Job F κ) T (World F κ)) (i : ℕ),
    (system (config c) (Represents c a)).Run (fun _ _ => True) (fresh w) es u →
    (DataAccessor.putAll p S clock 0 puts).Sublist (es.filterMap (Event.calledBy t)) →
    u.producers t = none →
    (system (config c) (Represents c a)).Run (fun _ _ => True) u es' s →
    Unhindered (DataAccessor.putAll p S clock 0 puts) (.get S low high (some k))
      (s.accepted.zip (choices (es ++ es'))) →
    u.accepted.length ≤ i → i < s.finished.length →
    s.accepted[i]? = some (.get S low high (some k)) →
    ∃ model later, s.world.calls = (a.runs ((s.accepted.zip (choices (es ++ es'))).take i)).calls
        ++ .get k (some ⟨S, model⟩) true :: later
      ∧ (S.sent p clock (puts.map Prod.fst)).Sublist model

omit [Zero F] in
/-- Puts that nothing hinders commit their models, whatever becomes of the jobs between them. -/
theorem committed_sublist {puts : List (Job F κ)} {jobs : List (Job F κ × Faults c)}
    (h : puts.Sublist (jobs.map Prod.fst)) (hput : ∀ j ∈ jobs, j.1 ∈ puts → ∀ n, j.2.put n = none)
    (S : Sensor) : (puts.flatMap (Ingestion.model S)).Sublist (committed S jobs) := by
  obtain ⟨made, hmade, rfl⟩ := List.sublist_map_iff.1 h
  rw [← Ingestion.committed_all fun j hj =>
    hput j (hmade.subset hj) (List.mem_map_of_mem hj)]
  exact hmade.flatMap _

/-- What a thread has called `process()` with before `u` is accepted before what comes after. -/
theorem calls_take {es es' : List (Event (Job F κ) T (Faults c))}
    {u s : State (Job F κ) T (World F κ)} {w₀ : World F κ → Prop} {i : ℕ} (hw : w₀ w)
    (h : (system (config c) w₀).Run (fun _ _ => True) (fresh w) es u)
    (ht : u.producers t = none) (h' : (system (config c) w₀).Run (fun _ _ => True) u es' s)
    (hi : u.accepted.length ≤ i) {os : List (Faults c)} (hos : i ≤ os.length) :
    (es.filterMap (Event.calledBy t)).Sublist (((s.accepted.zip os).take i).map Prod.fst) := by
  have hfresh : (system (T := T) (config c) w₀).Reachable (fresh w) := .init ⟨w, hw, rfl⟩
  have hcalls := calls_accepted hfresh h t
  rw [inFlight, ht, List.append_nil] at hcalls
  have hpre : u.accepted <+: s.accepted.take i :=
    List.prefix_take_iff.2 ⟨run_accepted (h.reachableBy hfresh) h', hi⟩
  rw [List.zip, List.take_zipWith, ← List.zip, List.map_fst_zip (by simp; omega)]
  exact hcalls.trans hpre.sublist

theorem delivered_of_untied (hw : Represents c a w)
    (hclock : ∀ m n, m ≤ n → clock m ≤ clock n)
    (hcover : ∀ x ∈ S.sent p clock (puts.map Prod.fst),
      low ≤ S.timestamp x ∧ S.timestamp x ≤ high)
    (huntied : S.Untied p clock (puts.map Prod.fst)) :
    DeliveredInOrder c p S clock a w t puts low high k := by
  intro es es' u s i hr hputs hu hr' hworks hi hf hget
  have hrun := hr.append hr'
  obtain ⟨hlen, -⟩ := collected_run hw hrun
  obtain ⟨o, later, ho, hcall⟩ := get_call hw hrun hf hget
  have hjob : (Job.get S low high (some k), o) ∈ s.accepted.zip (choices (es ++ es')) :=
    List.mem_of_getElem? (List.getElem?_zip_eq_some.2 ⟨hget, ho⟩)
  refine ⟨_, later, hcall ((hworks _ hjob).2 rfl), ?_⟩
  have hstored := committed_sublist (hputs.trans (calls_take hw hr hu hr' hi (hlen ▸ hf.le)))
    (fun j hj => (hworks j (List.mem_of_mem_take hj)).1) S
  rw [DataAccessor.putAll_sent] at hstored
  have hrange : Job.inRange S low high (S.sent p clock (puts.map Prod.fst))
      = S.sent p clock (puts.map Prod.fst) :=
    List.filter_eq_self.2 fun x hx => by simpa using hcover x hx
  have hsub := (hstored.trans (List.sublist_append_right (a.rows S) _)).filter
    fun x => low ≤ S.timestamp x ∧ S.timestamp x ≤ high
  rw [← Job.inRange, hrange] at hsub
  exact o.arrange_keeps hsub (S.sent_sorted hclock _) (Sensor.untied_iff.1 huntied)

/-- The puts and the get one after the other, and nothing else: what is sent must then be in its
order however the readings are arranged for the get. -/
theorem DeliveredInOrder.arranged (h : DeliveredInOrder c p S clock a w t puts low high k)
    (hw : Represents c a w) (o : Faults c) (hput : ∀ n, o.put n = none) (hread : o.ReadsWell) :
    ∃ readings, (S.sent p clock (puts.map Prod.fst)).Sublist (o.arrange S readings) := by
  set jobs := DataAccessor.putAll p S clock 0 puts
  obtain ⟨es, hes, hce, hr⟩ := exists_rested (config c) (Represents c a) t w
    (jobs.map fun job => (job, .calm c))
  have hfst : (jobs.map fun job => (job, Faults.calm c)).map Prod.fst = jobs := by
    simp [Function.comp_def]
  rw [hfst] at hce hr
  obtain ⟨fs, hfs, -, hget⟩ := job_run (config c) (Represents c a) t _ jobs
    (.get S low high (some k)) o
  have hos : choices (es ++ fs) = jobs.map (fun _ => .calm c) ++ [o] := by
    rw [choices_append, hes, hfs, List.map_map]
    rfl
  have hworks : ∀ x ∈ choices (es ++ fs), (∀ n, x.put n = none) ∧ x.ReadsWell := by
    rw [hos]
    intro x hx
    rcases List.mem_append.1 hx with hx | hx
    · obtain ⟨-, -, rfl⟩ := List.mem_map.1 hx
      exact ⟨Faults.calm_put c, .calm c⟩
    · obtain rfl : x = o := by simpa using hx
      exact ⟨hput, hread⟩
  have hlast : jobs.length < (jobs ++ [Job.get S low high (some k)]).length := by simp
  have hat : (jobs ++ [Job.get S low high (some k)])[jobs.length]?
      = some (.get S low high (some k)) := by simp
  obtain ⟨model, later, hcalls, hsub⟩ := h es fs _ _ jobs.length hr (by rw [hce]) rfl hget
    (fun j hj => (hworks j.2 (List.of_mem_zip hj).2).imp (fun h _ => h) fun h _ => h) le_rfl hlast
    hat
  obtain ⟨o', later', ho', hcall⟩ := get_call hw (hr.append hget) hlast hat
  obtain rfl : o = o' := by simpa [hos] using ho'
  rw [hcall hread] at hcalls
  obtain ⟨rfl, -⟩ : o.arrange S _ = model ∧ later' = later := by simpa using hcalls
  exact ⟨_, hsub⟩

theorem untied_of_delivered (hw : Represents c a w)
    (h : DeliveredInOrder c p S clock a w t puts low high k) :
    S.Untied p clock (puts.map Prod.fst) := by
  classical
  have hpairs : (S.sent p clock (puts.map Prod.fst)).Pairwise
      fun x y => S.timestamp x = S.timestamp y → x = y := by
    refine List.pairwise_iff_forall_sublist.2 fun {x y} hxy ht => ?_
    obtain ⟨readings, hsub⟩ := h.arranged hw
      { Faults.calm c with order := .first _ (S.accessor.row c S.definition y) }
      (Faults.calm_put c) ⟨rfl, fun _ => rfl⟩
    exact Faults.arrange_first rfl (hxy.trans hsub) ht
  rw [Sensor.untied_iff]
  have hsymm : Std.Symm fun x y : S.Data F => S.timestamp x = S.timestamp y → x = y :=
    ⟨fun _ _ hxy ht => (hxy ht.symm).symm⟩
  exact hpairs.forall_of_forall fun _ _ _ => rfl

/-- Readings that never go back in time, from a thread's puts of arrays of any length, come back in
the order they were sent in from every covering get, however the database orders rows of one
timestamp, exactly if no two of them that differ were read at the same time. -/
theorem delivered_iff (hw : Represents c a w) (hclock : ∀ m n, m ≤ n → clock m ≤ clock n)
    (hcover : ∀ x ∈ S.sent p clock (puts.map Prod.fst),
      low ≤ S.timestamp x ∧ S.timestamp x ≤ high) :
    DeliveredInOrder c p S clock a w t puts low high k ↔ S.Untied p clock (puts.map Prod.fst) :=
  ⟨untied_of_delivered hw, delivered_of_untied hw hclock hcover⟩

/-- The text of an array with two objects, `1` and `2`, and `3` and `4`. -/
def twoReadings : List UInt8 :=
  [91, 123, 34, 118, 97, 108, 117, 101, 34, 58, 49, 44, 34, 114, 97, 119, 34, 58, 50, 125, 44,
    123, 34, 118, 97, 108, 117, 101, 34, 58, 51, 44, 34, 114, 97, 119, 34, 58, 52, 125, 93]

def knowsTwo : Platform ℤ ℤ :=
  { Ingestion.knowsOne with
    parse input :=
      if input = twoReadings then
        some (.array [.object [("value", .scalar 1), ("raw", .scalar 2)],
          .object [("value", .scalar 3), ("raw", .scalar 4)]])
      else none }

/-- A clock that ticks between the first two readings of it, and not again. -/
def ticking (n : ℕ) : Int64 := if n = 0 then 5 else 6

/-- Two elements at different times, and a put of something that is not JSON. -/
theorem delivered_ticking :
    Sensor.temperature.sent knowsTwo ticking [twoReadings, [63]] = [⟨1, 2, 5⟩, ⟨3, 4, 6⟩]
      ∧ DeliveredInOrder whole knowsTwo .temperature ticking .blank .blank ()
        [(twoReadings, some 3), ([63], none)] 5 6 7 := by
  have hsent : Sensor.temperature.sent knowsTwo ticking [twoReadings, [63]]
      = [⟨1, 2, 5⟩, ⟨3, 4, 6⟩] := rfl
  have hclock : ∀ m n, m ≤ n → ticking m ≤ ticking n := by
    intro m n hmn
    unfold ticking
    split_ifs
    · decide
    · decide
    · omega
    · decide
  refine ⟨hsent, (delivered_iff represents_blank hclock ?_).2 ?_⟩
  · rw [List.map_cons, List.map_cons, List.map_nil, hsent]
    decide
  · rw [Sensor.untied_iff, List.map_cons, List.map_cons, List.map_nil, hsent]
    decide

/-- A clock that does not tick while the two elements are read. -/
def still (_ : ℕ) : Int64 := 5

/-- Both elements get the same timestamp, and the second may come back first. -/
theorem delivered_swapped :
    (∀ m n, m ≤ n → still m ≤ still n)
      ∧ (∀ x ∈ Sensor.temperature.sent knowsTwo still [twoReadings],
          5 ≤ x.timestamp ∧ x.timestamp ≤ 6)
      ∧ ¬ DeliveredInOrder whole knowsTwo .temperature still .blank .blank ()
        [(twoReadings, some 3)] 5 6 7 := by
  have hsent : Sensor.temperature.sent knowsTwo still [twoReadings]
      = [⟨1, 2, 5⟩, ⟨3, 4, 5⟩] := rfl
  refine ⟨fun _ _ _ => Int64.le_refl _, by rw [hsent]; decide, fun h => ?_⟩
  have huntied := Sensor.untied_iff.1 (untied_of_delivered represents_blank h)
  rw [List.map_cons, List.map_nil, hsent] at huntied
  exact absurd (huntied ⟨1, 2, 5⟩ (by simp) ⟨3, 4, 5⟩ (by simp) rfl) (by decide)

end runs

end SensorityCollector
