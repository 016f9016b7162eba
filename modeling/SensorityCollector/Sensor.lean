import Mathlib.Tactic

/-!
# The sensors and their readings
-/

namespace SensorityCollector

/-- The sensors the collector has an accessor, a model and a table for. -/
inductive Sensor
  | temperature
  | pressure
  | gas
  | humidity
  | iaq
  | co2
  | breathVoc
  | tvoc
  deriving DecidableEq, Repr

end SensorityCollector
