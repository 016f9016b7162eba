import SensorityCollector.Sensor
import SensorityCollector.Sql

/-!
# The readings and the lists they are stored by

Each accessor is written with its own lists: the keys its model reads from a JSON object, the
table and placeholders of its INSERT with the values bound to them, and the columns of its SELECT
with the fields they are read into. The tables are defined by `DataStorage`, apart from all these.
`F` stands for `float`.
-/

namespace SensorityCollector

open Sql

structure TemperatureData (F : Type) where
  value : F
  raw : F
  timestamp : Int64
  deriving DecidableEq, Repr

structure Co2Data (F : Type) where
  equivalent : F
  accuracy : F
  timestamp : Int64
  deriving DecidableEq, Repr

structure BreathVocData (F : Type) where
  equivalent : F
  accuracy : F
  timestamp : Int64
  deriving DecidableEq, Repr

structure GasData (F : Type) where
  value : F
  percentage : F
  percentageAccuracy : F
  timestamp : Int64
  deriving DecidableEq, Repr

structure HumidityData (F : Type) where
  value : F
  raw : F
  timestamp : Int64
  deriving DecidableEq, Repr

structure IaqData (F : Type) where
  value : F
  accuracy : F
  staticValue : F
  staticValueAccuracy : F
  timestamp : Int64
  deriving DecidableEq, Repr

structure PressureData (F : Type) where
  value : F
  timestamp : Int64
  deriving DecidableEq, Repr

structure TvocData (F : Type) where
  value : F
  timestamp : Int64
  deriving DecidableEq, Repr

/-- A field that a column is read into. -/
inductive Into (F T : Type)
  | float (set : F → T → T)
  | int64 (set : Int64 → T → T)

namespace Into

variable {F T : Type}

def extract (c : Numbers F) (data : T) : Into F T → Value F → T
  | .float set, v => set (v.asReal c) data
  | .int64 set, v => set (v.asInteger c) data

end Into

/-- What one accessor and its model are written with. `blank` is `T data;`, `keys` and `stamp` are
the assignments of `parseItem`, `error` the text of the exception of `makePutJob`. -/
structure Schema (F T : Type) where
  blank : T
  keys : List (String × (F → T → T))
  stamp : Int64 → T → T
  error : String
  insertInto : String
  placeholders : ℕ
  use : T → List (Value F)
  selectFrom : String
  columns : List String
  into : List (Into F T)

variable {F : Type} [Zero F]

def TemperatureDataAccessor : Schema F (TemperatureData F) where
  blank := ⟨0, 0, 0⟩
  keys := [("value", fun x data => { data with value := x }),
    ("raw", fun x data => { data with raw := x })]
  stamp t data := { data with timestamp := t }
  error := "Failed to parse input for TemperatureDataModel"
  insertInto := "TemperatureData"
  placeholders := 3
  use value := [.real value.value, .real value.raw, .integer value.timestamp]
  selectFrom := "TemperatureData"
  columns := ["Value", "Raw", "Timestamp"]
  into := [.float fun x data => { data with value := x },
    .float fun x data => { data with raw := x },
    .int64 fun n data => { data with timestamp := n }]

def HumidityDataAccessor : Schema F (HumidityData F) where
  blank := ⟨0, 0, 0⟩
  keys := [("value", fun x data => { data with value := x }),
    ("raw", fun x data => { data with raw := x })]
  stamp t data := { data with timestamp := t }
  error := "Failed to parse input for HumidityDataModel"
  insertInto := "HumidityData"
  placeholders := 3
  use value := [.real value.value, .real value.raw, .integer value.timestamp]
  selectFrom := "HumidityData"
  columns := ["Value", "Raw", "Timestamp"]
  into := [.float fun x data => { data with value := x },
    .float fun x data => { data with raw := x },
    .int64 fun n data => { data with timestamp := n }]

def PressureDataAccessor : Schema F (PressureData F) where
  blank := ⟨0, 0⟩
  keys := [("value", fun x data => { data with value := x })]
  stamp t data := { data with timestamp := t }
  error := "Failed to parse input for PressureDataModel"
  insertInto := "PressureData"
  placeholders := 2
  use value := [.real value.value, .integer value.timestamp]
  selectFrom := "PressureData"
  columns := ["Value", "Timestamp"]
  into := [.float fun x data => { data with value := x },
    .int64 fun n data => { data with timestamp := n }]

def IaqDataAccessor : Schema F (IaqData F) where
  blank := ⟨0, 0, 0, 0, 0⟩
  keys := [("value", fun x data => { data with value := x }),
    ("accuracy", fun x data => { data with accuracy := x }),
    ("staticValue", fun x data => { data with staticValue := x }),
    ("staticValueAccuracy", fun x data => { data with staticValueAccuracy := x })]
  stamp t data := { data with timestamp := t }
  error := "Failed to parse input for IaqDataModel"
  insertInto := "IaqData"
  placeholders := 5
  use value := [.real value.value, .real value.accuracy, .real value.staticValue,
    .real value.staticValueAccuracy, .integer value.timestamp]
  selectFrom := "IaqData"
  columns := ["Value", "Accuracy", "StaticValue", "StaticValueAccuracy", "Timestamp"]
  into := [.float fun x data => { data with value := x },
    .float fun x data => { data with accuracy := x },
    .float fun x data => { data with staticValue := x },
    .float fun x data => { data with staticValueAccuracy := x },
    .int64 fun n data => { data with timestamp := n }]

def GasDataAccessor : Schema F (GasData F) where
  blank := ⟨0, 0, 0, 0⟩
  keys := [("value", fun x data => { data with value := x }),
    ("percentage", fun x data => { data with percentage := x }),
    ("percentageAccuracy", fun x data => { data with percentageAccuracy := x })]
  stamp t data := { data with timestamp := t }
  error := "Failed to parse input for GasDataModel"
  insertInto := "GasData"
  placeholders := 4
  use value := [.real value.value, .real value.percentage, .real value.percentageAccuracy,
    .integer value.timestamp]
  selectFrom := "GasData"
  columns := ["Value", "Percentage", "PercentageAccuracy", "Timestamp"]
  into := [.float fun x data => { data with value := x },
    .float fun x data => { data with percentage := x },
    .float fun x data => { data with percentageAccuracy := x },
    .int64 fun n data => { data with timestamp := n }]

def Co2DataAccessor : Schema F (Co2Data F) where
  blank := ⟨0, 0, 0⟩
  keys := [("equivalent", fun x data => { data with equivalent := x }),
    ("accuracy", fun x data => { data with accuracy := x })]
  stamp t data := { data with timestamp := t }
  error := "Failed to parse input for Co2DataModel"
  insertInto := "Co2Data"
  placeholders := 3
  use value := [.real value.equivalent, .real value.accuracy, .integer value.timestamp]
  selectFrom := "Co2Data"
  columns := ["Equivalent", "Accuracy", "Timestamp"]
  into := [.float fun x data => { data with equivalent := x },
    .float fun x data => { data with accuracy := x },
    .int64 fun n data => { data with timestamp := n }]

def BreathVocDataAccessor : Schema F (BreathVocData F) where
  blank := ⟨0, 0, 0⟩
  keys := [("equivalent", fun x data => { data with equivalent := x }),
    ("accuracy", fun x data => { data with accuracy := x })]
  stamp t data := { data with timestamp := t }
  error := "Failed to parse input for BreathVocDataModel"
  insertInto := "BreathVocData"
  placeholders := 3
  use value := [.real value.equivalent, .real value.accuracy, .integer value.timestamp]
  selectFrom := "BreathVocData"
  columns := ["Equivalent", "Accuracy", "Timestamp"]
  into := [.float fun x data => { data with equivalent := x },
    .float fun x data => { data with accuracy := x },
    .int64 fun n data => { data with timestamp := n }]

def TvocDataAccessor : Schema F (TvocData F) where
  blank := ⟨0, 0⟩
  keys := [("value", fun x data => { data with value := x })]
  stamp t data := { data with timestamp := t }
  error := "Failed to parse input for TvocDataModel"
  insertInto := "TvocData"
  placeholders := 2
  use value := [.real value.value, .integer value.timestamp]
  selectFrom := "TvocData"
  columns := ["Value", "Timestamp"]
  into := [.float fun x data => { data with value := x },
    .int64 fun n data => { data with timestamp := n }]

namespace DataStorage

abbrev Definition := String × List (String × Affinity)

def TemperatureDataDefinition : Definition :=
  ("TemperatureData", [("Value", .real), ("Raw", .real), ("Timestamp", .integer)])

def HumidityDataDefinition : Definition :=
  ("HumidityData", [("Value", .real), ("Raw", .real), ("Timestamp", .integer)])

def PressureDataDefinition : Definition :=
  ("PressureData", [("Value", .real), ("Timestamp", .integer)])

def IaqDataDefinition : Definition :=
  ("IaqData", [("Value", .real), ("Accuracy", .real), ("StaticValue", .real),
    ("StaticValueAccuracy", .real), ("Timestamp", .integer)])

def GasDataDefinition : Definition :=
  ("GasData", [("Value", .real), ("Percentage", .real), ("PercentageAccuracy", .real),
    ("Timestamp", .integer)])

def Co2DataDefinition : Definition :=
  ("Co2Data", [("Equivalent", .real), ("Accuracy", .real), ("Timestamp", .integer)])

def BreathVocDataDefinition : Definition :=
  ("BreathVocData", [("Equivalent", .real), ("Accuracy", .real), ("Timestamp", .integer)])

def TvocDataDefinition : Definition :=
  ("TvocData", [("Value", .real), ("Timestamp", .integer)])

/-- The `CREATE TABLE` statements of `setUp()`, in its order. -/
def tables : List Definition :=
  [TemperatureDataDefinition, HumidityDataDefinition, PressureDataDefinition, IaqDataDefinition,
    GasDataDefinition, Co2DataDefinition, BreathVocDataDefinition, TvocDataDefinition]

end DataStorage

namespace Sensor

/-- The type of the sensor's readings. -/
@[reducible] def Data (F : Type) : Sensor → Type
  | temperature => TemperatureData F
  | pressure => PressureData F
  | gas => GasData F
  | humidity => HumidityData F
  | iaq => IaqData F
  | co2 => Co2Data F
  | breathVoc => BreathVocData F
  | tvoc => TvocData F

def accessor : ∀ S : Sensor, Schema F (S.Data F)
  | temperature => TemperatureDataAccessor
  | pressure => PressureDataAccessor
  | gas => GasDataAccessor
  | humidity => HumidityDataAccessor
  | iaq => IaqDataAccessor
  | co2 => Co2DataAccessor
  | breathVoc => BreathVocDataAccessor
  | tvoc => TvocDataAccessor

def definition : Sensor → DataStorage.Definition
  | temperature => DataStorage.TemperatureDataDefinition
  | pressure => DataStorage.PressureDataDefinition
  | gas => DataStorage.GasDataDefinition
  | humidity => DataStorage.HumidityDataDefinition
  | iaq => DataStorage.IaqDataDefinition
  | co2 => DataStorage.Co2DataDefinition
  | breathVoc => DataStorage.BreathVocDataDefinition
  | tvoc => DataStorage.TvocDataDefinition

end Sensor

end SensorityCollector
