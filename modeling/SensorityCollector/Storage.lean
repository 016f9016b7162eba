import SensorityCollector.Transition

/-!
# The storage's queue and the threads on it

`DataStorage` is a queue of jobs behind `_mutex` and `_cv`, a worker thread in `loop()`, one owner
in `setUp()`, `tearDown()` or the destructor, and any number of producers in `process()`. Every
thread is at a statement of its function, and a step is one statement of one thread. Each
`setUp()` makes a worker of its own, so that no two of them running at once is a result and not a
choice of the model. `accepted`, `started` and `finished` record what has happened and are read by
no step.
-/

namespace SensorityCollector

open Transition

namespace DataStorage

/-- The statements of `process(job)`. -/
inductive Process (J : Type*)
  | lock (job : J)
  | emplace (job : J)
  | unlock
  | notify

/-- The statements of `loop()`: the head of the outer `while`, the lock, the predicate of
`_cv.wait` before and after sleeping, the test after it, the inner `while`, `job->run` with the
call of `process()` the job is in, and `_jobs.pop()`. -/
inductive Loop (J : Type*)
  | unborn
  | head
  | lock
  | check
  | waiting
  | woken
  | test
  | drain
  | running (call : Option (Process J))
  | pop
  | exited

/-- The statements of `setUp()` and of `terminate()`, the body of `tearDown()` and of the
destructor. `creating n` has executed `n` of the `CREATE TABLE` statements. -/
inductive Owner
  | idle
  | setUp
  | creating (n : ℕ)
  | spawn
  | terminate
  | lock
  | clear
  | unlock
  | notify
  | join
  deriving DecidableEq

inductive Thread (T : Type*)
  | worker (k : ℕ)
  | owner
  | producer (t : T)
  deriving DecidableEq

/-- What the queue is used with: `job->run(_session)` under the choices `o` its environment makes,
telling whether a `std::exception` left it, and the `CREATE TABLE` statements of `setUp()`. -/
structure Config (J W O : Type*) where
  run : J → O → W → W × Bool
  definitions : List (W → W)

/-- `world` is what `_session` gives access to, `thread` the worker `_thread` is the handle of. -/
structure State (J T W : Type*) where
  world : W
  mutex : Option (Thread T)
  active : Bool
  jobs : List J
  thread : Option ℕ
  workers : ℕ → Loop J
  spawned : ℕ
  owner : Owner
  producers : T → Option (Process J)
  accepted : List J
  started : List J
  finished : List J

/-- The storage as its constructor leaves it. -/
def fresh {J T W : Type*} (w : W) : State J T W where
  world := w
  mutex := none
  active := false
  jobs := []
  thread := none
  workers := fun _ => .unborn
  spawned := 0
  owner := .idle
  producers := fun _ => none
  accepted := []
  started := []
  finished := []

variable {J T W O : Type*}

namespace State

variable [DecidableEq T]

def setWorker (s : State J T W) (k : ℕ) (w : Loop J) : State J T W :=
  { s with workers := Function.update s.workers k w }

def setProducer (s : State J T W) (t : T) (p : Option (Process J)) : State J T W :=
  { s with producers := Function.update s.producers t p }

end State

/-- Which step a thread takes; `run` carries what the environment chooses for the job, and with
`spawnThrows` the constructor of `std::thread` throws. -/
inductive Event (J T O : Type*)
  | call (t : T) (job : J)
  | process (t : T)
  | work (k : ℕ)
  | wake (k : ℕ)
  | run (k : ℕ) (o : O)
  | reenter (k : ℕ) (job : J)
  | nested (k : ℕ)
  | setUp
  | tearDown
  | own
  | spawnThrows
  | returned

/-- `_cv.notify_one()`: one of the waiting workers is woken, or there is none. -/
inductive NotifyOne : State J T W → State J T W → Prop
  | wakes {s : State J T W} {k : ℕ} : s.workers k = .waiting → NotifyOne s (s.setWorker k .woken)
  | lost {s : State J T W} : (∀ k, s.workers k ≠ .waiting) → NotifyOne s s

/-- One statement of `process(job)` on thread `th`, and the statement after it. -/
inductive ProcessStep (th : Thread T) :
    State J T W → Process J → State J T W → Option (Process J) → Prop
  | lock {s : State J T W} {job : J} : s.mutex = none →
      ProcessStep th s (.lock job) { s with mutex := some th } (some (.emplace job))
  | emplace {s : State J T W} {job : J} :
      ProcessStep th s (.emplace job)
        { s with jobs := s.jobs ++ [job], accepted := s.accepted ++ [job] } (some .unlock)
  | unlock {s : State J T W} : ProcessStep th s .unlock { s with mutex := none } (some .notify)
  | notify {s s' : State J T W} : NotifyOne s s' → ProcessStep th s .notify s' none

/-- One statement of `loop()` on worker `k`, but for `job->run`. -/
inductive LoopStep (k : ℕ) : State J T W → State J T W → Prop
  | head {s : State J T W} : s.workers k = .head →
      LoopStep k s (s.setWorker k (if s.active then .lock else .exited))
  | lock {s : State J T W} : s.workers k = .lock → s.mutex = none →
      LoopStep k s ({ s with mutex := some (.worker k) }.setWorker k .check)
  | ready {s : State J T W} : s.workers k = .check → (s.active = false ∨ s.jobs ≠ []) →
      LoopStep k s (s.setWorker k .test)
  | sleep {s : State J T W} : s.workers k = .check → s.active = true → s.jobs = [] →
      LoopStep k s ({ s with mutex := none }.setWorker k .waiting)
  | relock {s : State J T W} : s.workers k = .woken → s.mutex = none →
      LoopStep k s ({ s with mutex := some (.worker k) }.setWorker k .check)
  | leave {s : State J T W} : s.workers k = .test → s.active = false →
      LoopStep k s ({ s with mutex := none }.setWorker k .exited)
  | stay {s : State J T W} : s.workers k = .test → s.active = true →
      LoopStep k s (s.setWorker k .drain)
  | drained {s : State J T W} : s.workers k = .drain → s.jobs = [] →
      LoopStep k s ({ s with mutex := none }.setWorker k .head)
  | front {s : State J T W} {job : J} {rest : List J} : s.workers k = .drain →
      s.jobs = job :: rest →
      LoopStep k s ({ s with started := s.started ++ [job] }.setWorker k (.running none))
  | pop {s : State J T W} : s.workers k = .pop →
      LoopStep k s ({ s with jobs := s.jobs.tail }.setWorker k .drain)

/-- One statement of `setUp()` or `terminate()` that does not return from `tearDown()`, but for the
making of the thread if it fails. -/
inductive OwnerStep (c : Config J W O) : State J T W → State J T W → Prop
  | refuse {s : State J T W} : s.owner = .setUp → s.active = true →
      OwnerStep c s { s with owner := .idle }
  | accept {s : State J T W} : s.owner = .setUp → s.active = false →
      OwnerStep c s { s with owner := .creating 0 }
  | create {s : State J T W} {n : ℕ} {f : W → W} : s.owner = .creating n →
      c.definitions[n]? = some f →
      OwnerStep c s { s with world := f s.world, owner := .creating (n + 1) }
  | createThrows {s : State J T W} {n : ℕ} {f : W → W} : s.owner = .creating n →
      c.definitions[n]? = some f → OwnerStep c s { s with owner := .idle }
  | activate {s : State J T W} {n : ℕ} : s.owner = .creating n → c.definitions[n]? = none →
      OwnerStep c s { s with active := true, owner := .spawn }
  | spawn {s : State J T W} : s.owner = .spawn →
      OwnerStep c s ({ s with thread := some s.spawned, spawned := s.spawned + 1,
                              owner := .idle }.setWorker s.spawned .head)
  | test {s : State J T W} : s.owner = .terminate → s.active = true →
      OwnerStep c s { s with owner := .lock }
  | lock {s : State J T W} : s.owner = .lock → s.mutex = none →
      OwnerStep c s { s with mutex := some .owner, owner := .clear }
  | clear {s : State J T W} : s.owner = .clear →
      OwnerStep c s { s with active := false, owner := .unlock }
  | unlock {s : State J T W} : s.owner = .unlock →
      OwnerStep c s { s with mutex := none, owner := .notify }
  | notify {s s' : State J T W} : s.owner = .notify → NotifyOne s s' →
      OwnerStep c s { s' with owner := .join }

/-- `tearDown()` returns: the storage was not active, there is no thread to join, or the thread
has ended. -/
inductive ReturnStep : State J T W → State J T W → Prop
  | inactive {s : State J T W} : s.owner = .terminate → s.active = false →
      ReturnStep s { s with owner := .idle }
  | unjoinable {s : State J T W} : s.owner = .join → s.thread = none →
      ReturnStep s { s with owner := .idle }
  | joined {s : State J T W} {k : ℕ} : s.owner = .join → s.thread = some k →
      s.workers k = .exited → ReturnStep s { s with thread := none, owner := .idle }

variable [DecidableEq T]

/-- One step of one thread. A job that is being run may call `process()` on this storage; what it
throws is caught, logged and dropped. -/
inductive Step (c : Config J W O) : State J T W → Event J T O → State J T W → Prop
  | call {s : State J T W} {t : T} {job : J} : s.producers t = none →
      Step c s (.call t job) (s.setProducer t (some (.lock job)))
  | process {s s' : State J T W} {t : T} {p : Process J} {p' : Option (Process J)} :
      s.producers t = some p → ProcessStep (.producer t) s p s' p' →
      Step c s (.process t) (s'.setProducer t p')
  | work {s s' : State J T W} {k : ℕ} : LoopStep k s s' → Step c s (.work k) s'
  | wake {s : State J T W} {k : ℕ} : s.workers k = .waiting →
      Step c s (.wake k) (s.setWorker k .woken)
  | run {s : State J T W} {k : ℕ} {o : O} {job : J} {rest : List J} :
      s.workers k = .running none → s.jobs = job :: rest → (c.run job o s.world).2 = false →
      Step c s (.run k o) ({ s with world := (c.run job o s.world).1,
                                    finished := s.finished ++ [job] }.setWorker k .pop)
  | caught {s : State J T W} {k : ℕ} {o : O} {job : J} {rest : List J} :
      s.workers k = .running none → s.jobs = job :: rest → (c.run job o s.world).2 = true →
      Step c s (.run k o) ({ s with world := (c.run job o s.world).1,
                                    finished := s.finished ++ [job] }.setWorker k .pop)
  | reenter {s : State J T W} {k : ℕ} {job : J} : s.workers k = .running none →
      Step c s (.reenter k job) (s.setWorker k (.running (some (.lock job))))
  | nested {s s' : State J T W} {k : ℕ} {p : Process J} {p' : Option (Process J)} :
      s.workers k = .running (some p) → ProcessStep (.worker k) s p s' p' →
      Step c s (.nested k) (s'.setWorker k (.running p'))
  | setUp {s : State J T W} : s.owner = .idle → Step c s .setUp { s with owner := .setUp }
  | tearDown {s : State J T W} : s.owner = .idle →
      Step c s .tearDown { s with owner := .terminate }
  | own {s s' : State J T W} : OwnerStep c s s' → Step c s .own s'
  | spawnThrows {s : State J T W} : s.owner = .spawn →
      Step c s .spawnThrows { s with owner := .idle }
  | returned {s s' : State J T W} : ReturnStep s s' → Step c s .returned s'

/-- The storage from its construction on, over a world in `w₀`. -/
def system (c : Config J W O) (w₀ : W → Prop) : System (State J T W) (Event J T O) where
  init s := ∃ w, w₀ w ∧ s = fresh w
  step := Step c

end DataStorage

end SensorityCollector
