import SensorityCollector.Proofs.SchemaAgree

/-!
# What a batch is read as

Every element is read into the one `data`, half-read ones included, and the model still holds just
the readings that the elements are.
-/

namespace SensorityCollector

variable {V F T : Type} {p : Platform V F} {s : Schema F T} {clock : ℕ → Int64}
  {object : List (String × Var V)}

namespace Schema

theorem assign_none {keys : List (String × (F → T → T))} (data : T)
    (h : keys.mapM (fun key => p.getValue object key.1) = none) :
    (assign p object keys data).1 = false := by
  induction keys generalizing data with
  | nil => simp at h
  | cons k keys ih =>
    simp only [assign]
    rcases hk : p.getValue object k.1 with _ | x
    · rfl
    · rw [List.mapM_cons, hk] at h
      rcases hm : keys.mapM (fun key => p.getValue object key.1) with _ | values
      · exact ih _ hm
      · simp [hm] at h

theorem assign_some {keys : List (String × (F → T → T))} {data : T} {values : List F}
    (h : keys.mapM (fun key => p.getValue object key.1) = some values) :
    assign p object keys data
      = (true, (keys.zip values).foldl (fun data k => k.1.2 k.2 data) data) := by
  induction keys generalizing data values with
  | nil =>
    obtain rfl : [] = values := by simpa using h
    rfl
  | cons k keys ih =>
    simp only [assign]
    rcases hk : p.getValue object k.1 with _ | x
    · simp [List.mapM_cons, hk] at h
    · rw [List.mapM_cons, hk] at h
      rcases hm : keys.mapM (fun key => p.getValue object key.1) with _ | rest
      · simp [hm] at h
      · obtain rfl : x :: rest = values := by simpa [hm] using h
        exact ih hm

/-- What an object is read as does not depend on what was read before it. -/
theorem parseItem_eq {d : DataStorage.Definition} {timestamp : T → Int64}
    (hs : s.Lawful d timestamp) (p : Platform V F) (clock : ℕ → Int64)
    (object : List (String × Var V)) (data : T) (tick : ℕ) :
    (∃ x, s.reading p (.object object) = some x
        ∧ s.parseItem p clock object data tick = (true, x (clock tick), tick + 1))
      ∨ (s.reading p (.object object) = none
        ∧ ∃ data', s.parseItem p clock object data tick = (false, data', tick)) := by
  rcases hm : s.keys.mapM (fun key => p.getValue object key.1) with _ | values
  · refine .inr ⟨by simp [reading, Var.getObject, hm], ?_⟩
    have hfst := assign_none data hm
    unfold parseItem
    rcases ha : assign p object s.keys data with ⟨_ | _, data'⟩
    · exact ⟨data', rfl⟩
    · simp [ha] at hfst
  · refine .inl ⟨fun t => s.stamp t
      ((s.keys.zip values).foldl (fun data k => k.1.2 k.2 data) s.blank),
      by simp [reading, Var.getObject, hm], ?_⟩
    have hone := hs.assign V p object data (clock tick) (by rw [assign_some hm])
    rw [assign_some hm, assign_some hm] at hone
    unfold parseItem
    rw [assign_some hm]
    simp only [hone]

end Schema

namespace TypedDataModel

theorem parseItems_eq {d : DataStorage.Definition} {timestamp : T → Int64}
    (hs : s.Lawful d timestamp) (items : List (Var V)) (data : T) (tick : ℕ) (values : List T) :
    parseItems p s clock items data tick values
      = values ++ (items.filterMap (s.reading p)).mapIdx fun n x => x (clock (tick + n)) := by
  induction items generalizing data tick values with
  | nil => simp [parseItems]
  | cons item items ih =>
    unfold parseItems
    rcases ho : item.getObject with _ | object
    · have hnone : s.reading p item = none := by simp [Schema.reading, ho]
      simp only [List.filterMap_cons, hnone, ih]
    · obtain rfl : item = .object object := by
        cases item <;> simp_all [Var.getObject]
      rcases Schema.parseItem_eq hs p clock object data tick with ⟨x, hx, hi⟩ | ⟨hx, data', hi⟩
      · simp only [hi, ih, List.filterMap_cons, hx, List.mapIdx_cons, add]
        simp [Nat.add_assoc, Nat.add_comm 1]
      · simp only [hi, ih, List.filterMap_cons, hx]

end TypedDataModel

/-- The model of the job that a put makes. -/
theorem Sensor.parseItems_eq [Zero F] (S : Sensor) {input : List UInt8} {items : List (Var V)}
    (h : p.parse input = some (.array items)) :
    TypedDataModel.parseItems p S.accessor clock items S.accessor.blank 0 []
      = S.accessor.readings p clock input := by
  rw [TypedDataModel.parseItems_eq S.lawful, Schema.readings, h]
  simp

/-- What is left in the model is what the input is read as, whatever the call comes to. -/
theorem Sensor.parseArray_eq [Zero F] (S : Sensor) (clock : ℕ → Int64) (values : List (S.Data F))
    (input : List UInt8) :
    TypedDataModel.parseArray p S.accessor clock values input
      = (match p.parse input with
          | none => .error .poco
          | some (.array _) => .ok true
          | some (.scalar _) | some (.object _) => .ok false,
        S.accessor.readings p clock input) := by
  unfold TypedDataModel.parseArray
  rcases hp : p.parse input with _ | _ | items | members
  · simp [Schema.readings, hp, TypedDataModel.clear]
  · simp [Schema.readings, hp, TypedDataModel.clear]
  · simp only [TypedDataModel.clear, S.parseItems_eq hp]
  · simp [Schema.readings, hp, TypedDataModel.clear]

section batch

variable {S : Sensor} {members : List (String × Var V)} {item : Var V} {x y : S.Data F} {t : Int64}

theorem Sensor.fields_required (x : S.Data F) : (S.fields x).map Prod.fst = S.required := by
  cases S <;> rfl

theorem Sensor.ext_fields (hf : S.fields x = S.fields y) (ht : S.timestamp x = S.timestamp y) :
    x = y := by
  cases S <;> cases x <;> cases y <;> simp_all [Sensor.fields, Sensor.timestamp]

variable [Zero F]

theorem Sensor.keys_required (S : Sensor) :
    (S.accessor (F := F)).keys.map Prod.fst = S.required := by
  cases S <;> rfl

theorem Sensor.timestamp_stamp (S : Sensor) (t : Int64) (data : S.Data F) :
    S.timestamp (S.accessor.stamp t data) = t := by
  cases S <;> rfl

/-- When every key has been assigned to, nothing is left of what was in the fields before. -/
theorem Sensor.fields_stamp (S : Sensor) (value : String → F) (t : Int64) (data : S.Data F) :
    S.fields (S.accessor.stamp t
        (S.accessor.keys.foldl (fun data k => k.2 (value k.1) data) data))
      = S.required.map fun key => (key, value key) := by
  cases S <;> rfl

theorem Sensor.fields_eq
    (h : ∀ field ∈ S.fields x, p.getValue members field.1 = some field.2) :
    S.fields x = S.required.map fun key => (key, (p.getValue members key).getD 0) := by
  rw [← S.fields_required x, List.map_map]
  conv_lhs => rw [← List.map_id (S.fields x)]
  refine List.map_congr_left fun field hf => ?_
  simp [h field hf]

/-- An element and a time make one reading at most. -/
theorem Sensor.Reads.unique (hx : S.Reads p item t x) (hy : S.Reads p item t y) : x = y := by
  obtain ⟨htx, members, rfl, hx⟩ := hx
  obtain ⟨hty, members', heq, hy⟩ := hy
  obtain rfl : members = members' := by simpa using heq
  exact Sensor.ext_fields ((Sensor.fields_eq hx).trans (Sensor.fields_eq hy).symm)
    (htx.trans hty.symm)

/-- What an element says is in the row of its reading, under the names of the columns. -/
theorem Sensor.Reads.records {c : Sql.Numbers F} (h : S.Reads p item t x) :
    S.Records p item t (S.accessor.row c S.definition x) := by
  obtain ⟨rfl, members, rfl, hfields⟩ := h
  refine ⟨S.row_names x, S.row_timestamp x, members, rfl, fun column hcolumn => ?_⟩
  have hmem : (column.2, (S.accessor.row c S.definition x).lookup column.1)
      ∈ (S.fields x).map fun field => (field.1, some (Sql.Value.real field.2)) := by
    rw [← S.lookup_row (c := c) x]
    exact List.mem_map_of_mem hcolumn
  obtain ⟨field, hfield, heq⟩ := List.mem_map.1 hmem
  obtain ⟨hkey, hvalue⟩ := Prod.mk.inj heq
  exact ⟨field.2, hkey ▸ hfields field hfield, hvalue.symm⟩

omit [Zero F] in
/-- An element and a time make one row at most. -/
theorem Sensor.Records.unique {row row' : Sql.Row F} (h : S.Records p item t row)
    (h' : S.Records p item t row') : row = row' := by
  obtain ⟨hnames, htime, members, rfl, hvalues⟩ := h
  obtain ⟨hnames', htime', members', heq, hvalues'⟩ := h'
  obtain rfl : members = members' := by simpa using heq
  refine Sql.Row.ext_lookup (hnames ▸ S.names_nodup) (hnames.trans hnames'.symm)
    fun name hname => ?_
  rw [hnames] at hname
  rcases List.mem_append.1 hname with hname | hname
  · obtain ⟨column, hcolumn, rfl⟩ := List.mem_map.1 hname
    obtain ⟨x, hx, hlookup⟩ := hvalues column hcolumn
    obtain ⟨y, hy, hlookup'⟩ := hvalues' column hcolumn
    obtain rfl : x = y := Option.some.inj (hx.symm.trans hy)
    exact hlookup.trans hlookup'.symm
  · obtain rfl := List.mem_singleton.1 hname
    exact htime.trans htime'.symm

omit [Zero F] in
/-- The elements determine what is added. -/
theorem Sensor.Adds.unique {elements : List (Var V × Int64)} {former rows rows' : List (Sql.Row F)}
    (h : S.Adds p elements former rows) (h' : S.Adds p elements former rows') : rows = rows' := by
  obtain ⟨added, rfl, h⟩ := h
  obtain ⟨added', rfl, h'⟩ := h'
  have heq : added = added' := by
    induction h generalizing added' with
    | nil =>
      cases h'
      rfl
    | cons hrow _ ih =>
      rcases h' with _ | ⟨hrow', htail⟩
      rw [hrow.unique hrow', ih _ htail]
  rw [heq]

theorem Sensor.accepts_eq (S : Sensor) (data : S.Data F) :
    S.accepts p (.object members) = (Schema.assign p members S.accessor.keys data).1 := by
  rw [Schema.assign_fst, Sensor.accepts, ← S.keys_required (F := F), List.all_map]
  rfl

/-- Whatever half-read values the fields held, an accepted object leaves its own in all of them. -/
theorem Sensor.reads_assign (h : S.accepts p (.object members) = true) (data : S.Data F)
    (t : Int64) : S.Reads p (.object members) t
      (S.accessor.stamp t (Schema.assign p members S.accessor.keys data).2) := by
  refine ⟨S.timestamp_stamp t _, members, rfl, fun field hf => ?_⟩
  rw [Schema.assign_snd (S.accepts_eq data ▸ h),
    S.fields_stamp fun key => (p.getValue members key).getD 0] at hf
  obtain ⟨key, hkey, rfl⟩ := List.mem_map.1 hf
  rw [Sensor.accepts, List.all_eq_true] at h
  obtain ⟨v, hv⟩ := Option.isSome_iff_exists.1 (h key hkey)
  simp [hv]

/-- An accepted element is a reading, with the time still open, and it is what the element says. -/
theorem Sensor.reading_of_accepts (h : S.accepts p item = true) :
    ∃ x, S.accessor.reading p item = some x ∧ ∀ t, S.Reads p item t (x t) := by
  rcases item with v | items | members
  · cases h
  · cases h
  · have hreads := Sensor.reads_assign h S.accessor.blank
    rw [S.accepts_eq (F := F) S.accessor.blank] at h
    rcases hm : (S.accessor (F := F)).keys.mapM fun key => p.getValue members key.1
      with _ | values
    · rw [Schema.assign_none _ hm] at h
      cases h
    · rw [Schema.assign_some hm] at hreads
      exact ⟨_, by simp [Schema.reading, Var.getObject, hm], hreads⟩

theorem Sensor.reading_of_refuses (h : S.accepts p item = false) :
    S.accessor.reading p item = none := by
  rcases item with v | items | members
  · rfl
  · rfl
  · rw [S.accepts_eq (F := F) S.accessor.blank] at h
    rcases hm : (S.accessor (F := F)).keys.mapM fun key => p.getValue members key.1
      with _ | values
    · simp [Schema.reading, Var.getObject, hm]
    · rw [Schema.assign_some hm] at h
      cases h

/-- The clock is read once if the object is accepted, and not otherwise. -/
theorem Sensor.parseItem_tick (S : Sensor) (data : S.Data F) (tick : ℕ) :
    ∃ data', S.accessor.parseItem p clock members data tick = (S.accepts p (.object members), data',
      tick + if S.accepts p (.object members) then 1 else 0) := by
  rw [S.accepts_eq data]
  unfold Schema.parseItem
  rcases Schema.assign p members S.accessor.keys data with ⟨_ | _, data'⟩
  · exact ⟨data', rfl⟩
  · exact ⟨S.accessor.stamp (clock tick) data', rfl⟩

theorem Sensor.readings_accepted (S : Sensor) (items : List (Var V)) :
    (items.filterMap ((S.accessor (F := F)).reading p)).map some
      = (items.filter (S.accepts p)).map (S.accessor.reading p) := by
  induction items with
  | nil => rfl
  | cons item items ih =>
    cases h : S.accepts p item with
    | false => simp [h, Sensor.reading_of_refuses h, ih]
    | true =>
      obtain ⟨x, hx, -⟩ := Sensor.reading_of_accepts (F := F) h
      simp [h, hx, ih]

/-- The accepted elements are recorded in the rows of the readings, one each and in order. -/
theorem Sensor.records_items (c : Sql.Numbers F) (S : Sensor) (clock : ℕ → Int64)
    (items : List (Var V)) :
    List.Forall₂ (fun element row => S.Records p element.1 element.2 row)
      ((items.filter (S.accepts p)).mapIdx fun n item => (item, clock n))
      (((items.filterMap (S.accessor.reading p)).mapIdx fun n x => x (clock n)).map
        (S.accessor.row c S.definition)) := by
  induction items generalizing clock with
  | nil => exact .nil
  | cons item items ih =>
    cases h : S.accepts p item with
    | false => simpa [h, Sensor.reading_of_refuses h] using ih clock
    | true =>
      obtain ⟨x, hx, hreads⟩ := Sensor.reading_of_accepts (F := F) h
      rw [List.filter_cons_of_pos h, List.filterMap_cons_some hx]
      simp only [List.mapIdx_cons, List.map_cons]
      exact .cons (hreads (clock 0)).records (ih fun n => clock (n + 1))

theorem Sensor.readings_get (S : Sensor) {items : List (Var V)} {n : ℕ}
    (h : (items.filter (S.accepts p))[n]? = some item) :
    ∃ x, (items.filterMap ((S.accessor (F := F)).reading p))[n]? = some x
      ∧ ∀ t, S.Reads p item t (x t) := by
  obtain ⟨x, hx, hr⟩ := Sensor.reading_of_accepts (F := F)
    (List.mem_filter.1 (List.mem_of_getElem? h)).2
  refine ⟨x, ?_, hr⟩
  have hn := congrArg (·[n]?) (S.readings_accepted (F := F) (p := p) items)
  simpa [h, hx] using hn

/-- Whatever the model held before, it holds one reading for each element that is accepted, in the
order of the array, each as its element says at a clock reading of its own. -/
theorem TypedDataModel.parseArray_exact (p : Platform V F) (S : Sensor) (clock : ℕ → Int64)
    (values : List (S.Data F)) (input : List UInt8) :
    (∀ members data tick, ∃ data', S.accessor.parseItem p clock members data tick
        = (S.accepts p (.object members), data',
          tick + if S.accepts p (.object members) then 1 else 0))
      ∧ match p.parse input with
        | some (.array items) => ∃ model,
            parseArray p S.accessor clock values input = (.ok true, model)
              ∧ model.length = (items.filter (S.accepts p)).length
              ∧ ∀ n item, (items.filter (S.accepts p))[n]? = some item →
                  ∀ x, model[n]? = some x ↔ S.Reads p item (clock n) x
        | some (.scalar _) | some (.object _) =>
            parseArray p S.accessor clock values input = (.ok false, [])
        | none => parseArray p S.accessor clock values input = (.error .poco, []) := by
  refine ⟨fun members data tick => S.parseItem_tick data tick, ?_⟩
  rw [S.parseArray_eq]
  rcases hp : p.parse input with _ | _ | items | members
  · simp [Schema.readings, hp]
  · simp [Schema.readings, hp]
  · refine ⟨S.accessor.readings p clock input, rfl, ?_, fun n item hn x => ?_⟩
    · have hlen := congrArg List.length (S.readings_accepted (F := F) (p := p) items)
      simpa [Schema.readings, hp] using hlen
    · obtain ⟨y, hy, hr⟩ := S.readings_get hn
      have hmodel : (S.accessor.readings p clock input)[n]? = some (y (clock n)) := by
        simp [Schema.readings, hp, hy]
      rw [hmodel]
      constructor
      · rintro ⟨⟩
        exact hr _
      · intro hx
        rw [(hr _).unique hx]
  · simp [Schema.readings, hp]

end batch

end SensorityCollector
