import SensorityCollector.DataModel

/-!
# The jobs and the accessors that make them

A job runs on the storage's one session and calls its callback; both may throw, which is the
environment's choice for every statement, as is the order of rows with equal timestamps. A callback
is known by a name, an empty one is `none`, and what has been called with what is recorded.
-/

namespace SensorityCollector

open Sql

variable {V F T κ σ : Type}

/-- What the database and the callback throw during one run of a job, if anything. -/
structure Faults (c : Numbers F) where
  begin : Option Exn
  insert : ℕ → Option Exn
  commit : Option Exn
  prepare : Option Exn
  execute : ℕ → Option Exn
  callback : Bool → Option Exn
  order : OrderBy (Row.key c "Timestamp")

/-- A call of a put or of a get callback. -/
inductive Call (F κ : Type)
  | put (callback : κ) (success : Bool)
  | get (callback : κ) (model : Option (Σ S : Sensor, List (S.Data F))) (success : Bool)

/-- `_session` and the calls made so far. -/
structure World (F κ : Type) where
  session : Session F
  calls : List (Call F κ)

abbrev JobM (F κ : Type) := EStateM Exn (World F κ)

def throwIf : Option Exn → EStateM Exn σ Unit
  | some e => throw e
  | none => pure ()

def orThrow {α : Type} : Except Exn α → EStateM Exn σ α
  | .ok a => pure a
  | .error e => throw e

/-- `try { body } catch (const Poco::Exception&) { handler }`. -/
def catchPoco (body handler : EStateM Exn σ Unit) : EStateM Exn σ Unit := fun w =>
  match body w with
  | .error .poco w => handler w
  | r => r

/-- `try { body } catch (const std::exception&) { handler }`. -/
def catchStd (body handler : EStateM Exn σ Unit) : EStateM Exn σ Unit := fun w =>
  match body w with
  | .error _ w => handler w
  | r => r

/-- `invokeIf`, where `record` keeps the call and `fault` is what the callback throws. -/
def invokeIf (record : Call F κ → σ → σ) (callback : Option κ) (call : κ → Call F κ)
    (fault : Option Exn) : EStateM Exn σ Unit :=
  match callback with
  | none => pure ()
  | some k => do
    modify (record (call k))
    throwIf fault

namespace World

def record (call : Call F κ) (w : World F κ) : World F κ := { w with calls := w.calls ++ [call] }

def mapSession (f : Session F → Session F) (w : World F κ) : World F κ :=
  { w with session := f w.session }

end World

namespace Transaction

/-- The constructor with `start`. -/
def begin {c : Numbers F} (o : Faults c) : JobM F κ Unit := do
  throwIf o.begin
  match (← get).session.begin with
  | some s => modify (World.mapSession fun _ => s)
  | none => throw .poco

def commit {c : Numbers F} (o : Faults c) : JobM F κ Unit := do
  throwIf o.commit
  modify (World.mapSession Session.commit)

/-- The destructor, however the block is left. -/
def destroy : EStateM.Result Exn (World F κ) Unit → EStateM.Result Exn (World F κ) Unit
  | .ok a w => .ok a (w.mapSession Session.rollback)
  | .error e w => .error e (w.mapSession Session.rollback)

/-- A block with a transaction in front. -/
def scope {c : Numbers F} (o : Faults c) (body : JobM F κ Unit) : JobM F κ Unit := fun w =>
  match begin o w with
  | .ok _ w => destroy (body w)
  | .error e w => .error e w

end Transaction

namespace PutDataJob

/-- One `session << SqlTemplate, use(…), now`. -/
def insert {c : Numbers F} (s : Schema F T) (o : Faults c) (n : ℕ) (value : T) : JobM F κ Unit := do
  throwIf (o.insert n)
  let w ← get
  match w.session.database.insert c s.insertInto s.placeholders (s.use value) with
  | some db => set (w.mapSession fun session => { session with database := db })
  | none => throw .poco

def insertAll {c : Numbers F} (s : Schema F T) (o : Faults c) : ℕ → List T → JobM F κ Unit
  | _, [] => pure ()
  | n, value :: model => do
    insert s o n value
    insertAll s o (n + 1) model

def run {c : Numbers F} (s : Schema F T) (o : Faults c) (model : List T) (callback : Option κ) :
    JobM F κ Unit :=
  catchPoco
    (Transaction.scope o do
      insertAll s o 0 model
      Transaction.commit o
      invokeIf World.record callback (Call.put · true) (o.callback true))
    (invokeIf World.record callback (Call.put · false) (o.callback false))

end PutDataJob

namespace GetDataJob

/-- The fields that the values of a row are read into. -/
def extract (c : Numbers F) (s : Schema F T) (values : List (Value F)) (data : T) : T :=
  (s.into.zip values).foldl (fun data field => field.1.extract c data field.2) data

/-- `while (!select.done())`, over the rows not yet read. With `range(0, 1)`, `execute()` reads one
row and returns 1, or finds none and returns 0, and the statement is done when no row is left. -/
def loop {c : Numbers F} (s : Schema F T) (o : Faults c) :
    ℕ → List (List (Value F)) → T → List T → JobM F κ (List T)
  | n, [], _, model => do
    throwIf (o.execute n)
    pure model
  | n, row :: rows, data, model => do
    throwIf (o.execute n)
    let data := extract c s row data
    let model := TypedDataModel.add model data
    if rows.isEmpty then pure model else loop s o (n + 1) rows data model

/-- The statement, compiled, with its result. -/
def prepare {c : Numbers F} (s : Schema F T) (o : Faults c) (low high : Int64) :
    JobM F κ (List (List (Value F))) := do
  throwIf o.prepare
  match (← get).session.database.select c s.selectFrom s.columns "Timestamp" low high o.order with
  | some rows => pure rows
  | none => throw .poco

def run {c : Numbers F} (S : Sensor) (s : Schema F (S.Data F)) (o : Faults c) (low high : Int64)
    (callback : Option κ) : JobM F κ Unit :=
  catchPoco
    (do
      let rows ← prepare s o low high
      let model ← loop s o 0 rows s.blank []
      invokeIf World.record callback (Call.get · (some ⟨S, model⟩) true) (o.callback true))
    (invokeIf World.record callback (Call.get · none false) (o.callback false))

end GetDataJob

inductive Job (F κ : Type)
  | put (S : Sensor) (model : List (S.Data F)) (callback : Option κ)
  | get (S : Sensor) (low high : Int64) (callback : Option κ)

namespace Job

variable [Zero F]

def run {c : Numbers F} (o : Faults c) : Job F κ → JobM F κ Unit
  | put S model callback => PutDataJob.run S.accessor o model callback
  | get S low high callback => GetDataJob.run S S.accessor o low high callback

def callback : Job F κ → Option κ
  | put _ _ callback | get _ _ _ callback => callback

end Job

/-- What a call of an accessor does to the rest: the jobs handed to `process()` and the calls it
makes itself. -/
structure Effects (F κ : Type) where
  processed : List (Job F κ)
  calls : List (Call F κ)

abbrev AccessorM (F κ : Type) := EStateM Exn (Effects F κ)

namespace Effects

def record (call : Call F κ) (e : Effects F κ) : Effects F κ :=
  { e with calls := e.calls ++ [call] }

def process (job : Job F κ) (e : Effects F κ) : Effects F κ :=
  { e with processed := e.processed ++ [job] }

/-- What a call of an accessor has done to the rest when it is over. -/
def of (x : AccessorM F κ Unit) : Effects F κ :=
  match x ⟨[], []⟩ with
  | .ok _ e | .error _ e => e

end Effects

namespace DataAccessor

variable [Zero F]

def makePutJob (p : Platform V F) (S : Sensor) (clock : ℕ → Int64) (input : List UInt8)
    (callback : Option κ) : Except Exn (Job F κ) :=
  match TypedDataModel.parseArray p S.accessor clock [] input with
  | (.ok true, model) => .ok (.put S model callback)
  | (.ok false, _) => .error (.std (S.accessor (F := F)).error)
  | (.error e, _) => .error e

def makeGetJob (S : Sensor) (low high : Int64) (callback : Option κ) : Except Exn (Job F κ) :=
  .ok (.get S low high callback)

/-- `std::move(callback)` into a by-value parameter: the argument, and what is left behind. -/
def move (callback : Option κ) : Option κ × Option κ := (callback, none)

/-- `fault` is what the callback throws when it is called. -/
def put (p : Platform V F) (S : Sensor) (clock : ℕ → Int64) (input : List UInt8)
    (callback : Option κ) (fault : Option Exn) : AccessorM F κ Unit :=
  let (argument, callback) := move callback
  catchStd
    (do
      let job ← orThrow (makePutJob p S clock input argument)
      modify (Effects.process job))
    (invokeIf Effects.record callback (Call.put · false) fault)

def get (S : Sensor) (low high : Int64) (callback : Option κ) (fault : Option Exn) :
    AccessorM F κ Unit :=
  let (argument, callback) := move callback
  catchStd
    (do
      let job ← orThrow (makeGetJob S low high argument)
      modify (Effects.process job))
    (invokeIf Effects.record callback (Call.get · none false) fault)

/-- `Poco::Timespan{days, 0, 0, 0, 0}`, in microseconds. -/
def timespan (days : Int64) : Int64 := days * 86400000000

end DataAccessor

end SensorityCollector
