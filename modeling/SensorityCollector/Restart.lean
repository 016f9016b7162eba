import Mathlib.Data.List.DropRight
import SensorityCollector.Ingestion

/-!
# The database of a configuration

`StorageSubsystem::createDatabase()`: what connection string the storage is made with, and what the
storage finds there.
-/

namespace SensorityCollector

open Sql

namespace Filesystem

/-- `parent_path()` of a POSIX path: what stands before the last separators, if anything does, and
a path of separators only as it is. -/
def parentPath (path : String) : String :=
  let directory := path.toList.rdropWhile (· ≠ '/')
  let name := directory.rdropWhile (· = '/')
  if name ≠ [] then String.ofList name
  else if directory = path.toList then path
  else if directory = [] then "" else "/"

def hasParentPath (path : String) : Bool := parentPath path ≠ ""

end Filesystem

def Name : String := "scollector.db"

def DatabasePath : String := "database.path"

namespace StorageSubsystem

open Filesystem

/-- `create_directories` reports no error for the paths that are `creatable`: directories that are
there, or that it can make. -/
def createDatabase (creatable : String → Bool) (config : String → Option String) : String :=
  let path := getString config DatabasePath Name
  if hasParentPath path then
    if creatable (parentPath path) then path else memory
  else memory

/-- What the storage finds, as nobody has been told anything. -/
def opened {F κ : Type} (files : Files F) (connectionString : String) : World F κ :=
  ⟨.connect files connectionString, []⟩

end StorageSubsystem

end SensorityCollector
