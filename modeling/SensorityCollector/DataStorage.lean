import SensorityCollector.DataJob
import SensorityCollector.Storage

/-!
# The storage of the jobs

`DataStorage` on the jobs of the accessors: `job->run(_session)`, and the `CREATE TABLE` statements
of `setUp()`.
-/

namespace SensorityCollector

open Sql

variable {F κ : Type} [Zero F]

/-- `job->run(_session)`: what it leaves behind, and whether an exception leaves it. -/
def Job.execute {c : Numbers F} (job : Job F κ) (o : Faults c) (w : World F κ) : World F κ × Bool :=
  match job.run o w with
  | .ok _ w => (w, false)
  | .error _ w => (w, true)

namespace DataStorage

def createTable (d : Definition) : World F κ → World F κ :=
  World.mapSession fun session => { session with database := session.database.create d.1 d.2 }

def config (c : Numbers F) : Config (Job F κ) (World F κ) (Faults c) where
  run := Job.execute
  definitions := tables.map createTable

end DataStorage

end SensorityCollector
