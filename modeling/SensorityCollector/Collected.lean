import SensorityCollector.DataStorage

/-!
# What is collected

The purpose of the storage, with no table, statement or session in it: readings by sensor, in the
order they were put, and what the callbacks have been told.
-/

namespace SensorityCollector

open Sql

variable {V F T κ : Type} {c : Numbers F}

/-- The row a reading is stored as. -/
def Schema.row (c : Numbers F) (s : Schema F T) (d : DataStorage.Definition) (x : T) : Row F :=
  Table.record c d.2 (s.use x)

/-- The reading a row is read as. -/
def Schema.ofRow (c : Numbers F) (s : Schema F T) (row : Row F) : T :=
  GetDataJob.extract c s (s.columns.filterMap fun column => row.lookup column) s.blank

/-- The reading that an element of an array is, but for its timestamp: the element is an object with
a number under every key. -/
def Schema.reading (p : Platform V F) (s : Schema F T) (item : Var V) : Option (Int64 → T) := do
  let object ← item.getObject
  let values ← s.keys.mapM fun key => p.getValue object key.1
  some fun t => s.stamp t ((s.keys.zip values).foldl (fun data k => k.1.2 k.2 data) s.blank)

/-- The readings that an input is: none unless it is an array. -/
def Schema.readings (p : Platform V F) (s : Schema F T) (clock : ℕ → Int64) (input : List UInt8) :
    List T :=
  match p.parse input with
  | some (.array items) => (items.filterMap (s.reading p)).mapIdx fun n x => x (clock n)
  | _ => []

def Sensor.timestamp : ∀ S : Sensor, S.Data F → Int64
  | temperature => TemperatureData.timestamp
  | pressure => PressureData.timestamp
  | gas => GasData.timestamp
  | humidity => HumidityData.timestamp
  | iaq => IaqData.timestamp
  | co2 => Co2Data.timestamp
  | breathVoc => BreathVocData.timestamp
  | tvoc => TvocData.timestamp

/-- The keys that an object has to have to be a reading of the sensor. -/
def Sensor.required : Sensor → List String
  | temperature | humidity => ["value", "raw"]
  | pressure | tvoc => ["value"]
  | gas => ["value", "percentage", "percentageAccuracy"]
  | iaq => ["value", "accuracy", "staticValue", "staticValueAccuracy"]
  | co2 | breathVoc => ["equivalent", "accuracy"]

/-- The fields of a reading, its timestamp aside, by name. -/
def Sensor.fields : ∀ S : Sensor, S.Data F → List (String × F)
  | temperature, x => [("value", x.value), ("raw", x.raw)]
  | pressure, x => [("value", x.value)]
  | gas, x => [("value", x.value), ("percentage", x.percentage),
      ("percentageAccuracy", x.percentageAccuracy)]
  | humidity, x => [("value", x.value), ("raw", x.raw)]
  | iaq, x => [("value", x.value), ("accuracy", x.accuracy), ("staticValue", x.staticValue),
      ("staticValueAccuracy", x.staticValueAccuracy)]
  | co2, x => [("equivalent", x.equivalent), ("accuracy", x.accuracy)]
  | breathVoc, x => [("equivalent", x.equivalent), ("accuracy", x.accuracy)]
  | tvoc, x => [("value", x.value)]

/-- Whether the element is an object from which every required field can be read. -/
def Sensor.accepts (p : Platform V F) (S : Sensor) : Var V → Bool
  | .object members => S.required.all fun key => (p.getValue members key).isSome
  | .scalar _ | .array _ => false

/-- `x` is what the element says, field by field, at the time `t`. -/
def Sensor.Reads (p : Platform V F) (S : Sensor) (item : Var V) (t : Int64) (x : S.Data F) : Prop :=
  S.timestamp x = t ∧ ∃ members, item = .object members
    ∧ ∀ field ∈ S.fields x, p.getValue members field.1 = some field.2

/-- The columns of the sensor's table, that of the time aside, and the key of the number in each. -/
def Sensor.columns : Sensor → List (String × String)
  | temperature | humidity => [("Value", "value"), ("Raw", "raw")]
  | pressure | tvoc => [("Value", "value")]
  | gas => [("Value", "value"), ("Percentage", "percentage"),
      ("PercentageAccuracy", "percentageAccuracy")]
  | iaq => [("Value", "value"), ("Accuracy", "accuracy"), ("StaticValue", "staticValue"),
      ("StaticValueAccuracy", "staticValueAccuracy")]
  | co2 | breathVoc => [("Equivalent", "equivalent"), ("Accuracy", "accuracy")]

/-- Under the names of its columns, the row has what the element says, and the time `t`. -/
def Sensor.Records (p : Platform V F) (S : Sensor) (item : Var V) (t : Int64) (row : Row F) :
    Prop :=
  row.map Prod.fst = S.columns.map Prod.fst ++ ["Timestamp"]
    ∧ row.lookup "Timestamp" = some (.integer t) ∧ ∃ members, item = .object members
    ∧ ∀ column ∈ S.columns, ∃ x, p.getValue members column.2 = some x
      ∧ row.lookup column.1 = some (.real x)

/-- The rows of the sensor's table; one that is not there has none. -/
def Sensor.rows (S : Sensor) (db : Database F) : List (Row F) :=
  ((db S.definition.1).map Table.rows).getD []

/-- The rows are the former ones and one for each of the elements with their times, in order. -/
def Sensor.Adds (p : Platform V F) (S : Sensor) (elements : List (Var V × Int64))
    (former rows : List (Row F)) : Prop :=
  ∃ added, rows = former ++ added
    ∧ List.Forall₂ (fun element row => S.Records p element.1 element.2 row) elements added

/-- The tables that are there are as `setUp()` defines them. -/
def DataStorage.WellFormed (db : Database F) : Prop :=
  ∀ d ∈ DataStorage.tables, ∀ t, db d.1 = some t → t.columns = d.2 ∧ t.Typed

/-- What is thrown first by the statements from the `n`-th on. -/
def firstFault (f : ℕ → Option Exn) (n count : ℕ) : Option Exn := (List.range' n count).findSome? f

namespace Faults

/-- What a put of `n` readings meets first. -/
def put (o : Faults c) (n : ℕ) : Option Exn :=
  o.begin.or ((firstFault o.insert 0 n).or o.commit)

/-- What a get that finds `n` readings meets first. -/
def get (o : Faults c) (n : ℕ) : Option Exn := o.prepare.or (firstFault o.execute 0 (max n 1))

/-- The readings in the order the statement delivers them in. -/
def arrange [Zero F] (o : Faults c) (S : Sensor) (readings : List (S.Data F)) : List (S.Data F) :=
  (o.order.sort (readings.map (S.accessor.row c S.definition))).map (S.accessor.ofRow c)

def calm (c : Numbers F) : Faults c where
  begin := none
  insert _ := none
  commit := none
  prepare := none
  execute _ := none
  callback _ := none
  order := .merge _

end Faults

structure Collected (F κ : Type) where
  rows : ∀ S : Sensor, List (S.Data F)
  calls : List (Call F κ)

namespace Job

def failed : Job F κ → κ → Call F κ
  | put _ _ _ => (Call.put · false)
  | get _ _ _ _ => (Call.get · none false)

/-- The calls of the callback, by what came of the statements. One that throws a `Poco::Exception`
on success is called again. -/
def answers {α : Type} (o : Faults c) (job : Job F κ) :
    Except Exn (α × (κ → Call F κ)) → List (Call F κ)
  | .ok (_, call) => (job.callback.map call).toList
      ++ if o.callback true = some .poco then (job.callback.map job.failed).toList else []
  | .error .poco => (job.callback.map job.failed).toList
  | .error (.std _) => []

def inRange (S : Sensor) (low high : Int64) (readings : List (S.Data F)) : List (S.Data F) :=
  readings.filter fun x => low ≤ S.timestamp x ∧ S.timestamp x ≤ high

/-- What a job makes of the readings and reports, or what its statements throw. -/
def outcome [Zero F] (o : Faults c) (rows : ∀ S : Sensor, List (S.Data F)) :
    Job F κ → Except Exn ((∀ S : Sensor, List (S.Data F)) × (κ → Call F κ))
  | put S model _ =>
    match o.put model.length with
    | some e => .error e
    | none => .ok (Function.update rows S (rows S ++ model), (Call.put · true))
  | get S low high _ =>
    match o.get (inRange S low high (rows S)).length with
    | some e => .error e
    | none =>
      .ok (rows, (Call.get · (some ⟨S, o.arrange S (inRange S low high (rows S))⟩) true))

end Job

namespace Collected

def run [Zero F] (job : Job F κ) (o : Faults c) (a : Collected F κ) : Collected F κ where
  rows :=
    match job.outcome o a.rows with
    | .ok (rows, _) => rows
    | .error _ => a.rows
  calls := a.calls ++ job.answers o (job.outcome o a.rows)

def runs [Zero F] (a : Collected F κ) (jobs : List (Job F κ × Faults c)) : Collected F κ :=
  jobs.foldl (fun a j => a.run j.1 j.2) a

end Collected

end SensorityCollector
