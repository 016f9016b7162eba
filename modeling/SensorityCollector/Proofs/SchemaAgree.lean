import SensorityCollector.Collected

/-!
# The four lists of each sensor agree

What makes an accessor's statements and its model fit its table: a reading written positionally and
read back by name is the same reading, and a reading parsed over the leftovers of another is as if
parsed over a blank one. Everything about jobs and models rests on this, and nothing else looks
into the eight accessors.
-/

namespace SensorityCollector

open Sql

variable {V F T κ : Type}

structure Schema.Lawful (s : Schema F T) (d : DataStorage.Definition) (timestamp : T → Int64) :
    Prop where
  insertInto : s.insertInto = d.1
  selectFrom : s.selectFrom = d.1
  placeholders : s.placeholders = d.2.length
  use : ∀ x, (s.use x).length = s.placeholders
  columns : ∀ column ∈ "Timestamp" :: s.columns, column ∈ d.2.map Prod.fst
  extract : ∀ (c : Numbers F) x data, GetDataJob.extract c s
    (s.columns.filterMap fun column => (s.row c d x).lookup column) data = x
  key : ∀ (c : Numbers F) x, Row.key c "Timestamp" (s.row c d x) = timestamp x
  assign : ∀ (V : Type) (p : Platform V F) object data t,
    (Schema.assign p object s.keys data).1 = true →
      s.stamp t (Schema.assign p object s.keys data).2
        = s.stamp t (Schema.assign p object s.keys s.blank).2

theorem Schema.assign_fst (p : Platform V F) (object : List (String × Var V))
    (keys : List (String × (F → T → T))) (data : T) :
    (Schema.assign p object keys data).1 = keys.all fun k => (p.getValue object k.1).isSome := by
  induction keys generalizing data with
  | nil => rfl
  | cons k keys ih =>
    simp only [Schema.assign, List.all_cons]
    cases p.getValue object k.1 with
    | none => rfl
    | some x => simpa using ih _

/-- When every key has a value, the assignments are made one after the other. -/
theorem Schema.assign_snd [Zero F] {p : Platform V F} {object : List (String × Var V)}
    {keys : List (String × (F → T → T))} {data : T}
    (h : (Schema.assign p object keys data).1 = true) :
    (Schema.assign p object keys data).2
      = keys.foldl (fun data k => k.2 ((p.getValue object k.1).getD 0) data) data := by
  induction keys generalizing data with
  | nil => rfl
  | cons k keys ih =>
    simp only [Schema.assign] at h ⊢
    cases hk : p.getValue object k.1 with
    | none => simp [hk] at h
    | some x =>
      simp only [hk] at h
      simpa [hk] using ih h

theorem Sensor.columns_defined [Zero F] (S : Sensor) :
    ∀ column ∈ "Timestamp" :: (S.accessor (F := F)).columns,
      column ∈ S.definition.2.map Prod.fst := by
  cases S
  all_goals
    intro column h
    fin_cases h <;> simp [Sensor.definition, DataStorage.TemperatureDataDefinition,
      DataStorage.PressureDataDefinition, DataStorage.GasDataDefinition,
      DataStorage.HumidityDataDefinition, DataStorage.IaqDataDefinition,
      DataStorage.Co2DataDefinition, DataStorage.BreathVocDataDefinition,
      DataStorage.TvocDataDefinition]

theorem Sensor.lawful [Zero F] (S : Sensor) :
    (S.accessor (F := F)).Lawful S.definition S.timestamp where
  insertInto := by cases S <;> rfl
  selectFrom := by cases S <;> rfl
  placeholders := by cases S <;> rfl
  use := by cases S <;> exact fun _ => rfl
  columns := S.columns_defined
  extract := by cases S <;> exact fun _ _ _ => rfl
  key := by cases S <;> exact fun _ _ => rfl
  assign := by
    intro V p object data t h
    have h' := h
    rw [Schema.assign_fst, ← Schema.assign_fst p object _ S.accessor.blank] at h'
    rw [Schema.assign_snd h, Schema.assign_snd h']
    cases S <;> rfl

/-- A row that fits its table is the row of the reading that it is read as. -/
theorem Sensor.row_ofRow [Zero F] (c : Numbers F) (S : Sensor) {row : Row F}
    (h : row.map (Prod.map id Value.affinity) = S.definition.2) :
    S.accessor.row c S.definition (S.accessor.ofRow c row) = row := by
  cases S
  case pressure | tvoc =>
    obtain ⟨x, _, rfl, hx⟩ := Table.real_of_typed h
    obtain ⟨t, rfl⟩ := Table.integer_of_typed hx
    rfl
  case temperature | humidity | co2 | breathVoc =>
    obtain ⟨x, _, rfl, hx⟩ := Table.real_of_typed h
    obtain ⟨y, _, rfl, hy⟩ := Table.real_of_typed hx
    obtain ⟨t, rfl⟩ := Table.integer_of_typed hy
    rfl
  case gas =>
    obtain ⟨x, _, rfl, hx⟩ := Table.real_of_typed h
    obtain ⟨y, _, rfl, hy⟩ := Table.real_of_typed hx
    obtain ⟨z, _, rfl, hz⟩ := Table.real_of_typed hy
    obtain ⟨t, rfl⟩ := Table.integer_of_typed hz
    rfl
  case iaq =>
    obtain ⟨x, _, rfl, hx⟩ := Table.real_of_typed h
    obtain ⟨y, _, rfl, hy⟩ := Table.real_of_typed hx
    obtain ⟨z, _, rfl, hz⟩ := Table.real_of_typed hy
    obtain ⟨u, _, rfl, hu⟩ := Table.real_of_typed hz
    obtain ⟨t, rfl⟩ := Table.integer_of_typed hu
    rfl

/-- The row of a reading has its fields in the columns that are named after them. -/
theorem Sensor.lookup_row [Zero F] {c : Numbers F} (S : Sensor) (x : S.Data F) :
    (S.columns.map fun column =>
        (column.2, (S.accessor.row c S.definition x).lookup column.1))
      = (S.fields x).map fun field => (field.1, some (.real field.2)) := by
  cases S <;> rfl

theorem Sensor.row_names [Zero F] {c : Numbers F} (S : Sensor) (x : S.Data F) :
    (S.accessor.row c S.definition x).map Prod.fst = S.columns.map Prod.fst ++ ["Timestamp"] := by
  cases S <;> rfl

theorem Sensor.row_timestamp [Zero F] {c : Numbers F} (S : Sensor) (x : S.Data F) :
    (S.accessor.row c S.definition x).lookup "Timestamp" = some (.integer (S.timestamp x)) := by
  cases S <;> rfl

theorem Sensor.names_nodup (S : Sensor) : (S.columns.map Prod.fst ++ ["Timestamp"]).Nodup := by
  cases S <;> decide

theorem Sensor.definition_injective {S S' : Sensor} (h : S.definition.1 = S'.definition.1) :
    S = S' := by
  revert h
  cases S <;> cases S' <;> decide

end SensorityCollector
