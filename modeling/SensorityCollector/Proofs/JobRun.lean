import SensorityCollector.Proofs.SchemaAgree

/-!
# What one run of a job does

A job is run on a session without an open transaction and leaves it without one. What becomes of
the database is a matter of the statements alone (`attempt`, `fetch`); the callback comes after.
-/

namespace SensorityCollector

open Sql

variable {V F T κ σ α β : Type} {c : Numbers F} {s : Schema F T} {o : Faults c}

section monad

theorem bind_apply (x : EStateM Exn σ α) (f : α → EStateM Exn σ β) (w : σ) :
    (x >>= f) w = match x w with
      | .ok a w => f a w
      | .error e w => .error e w := by
  simp only [bind, EStateM.bind]
  cases x w <;> rfl

@[simp] theorem pure_apply (a : α) (w : σ) : (pure a : EStateM Exn σ α) w = .ok a w := rfl

@[simp] theorem get_apply (w : σ) : (get : EStateM Exn σ σ) w = .ok w w := rfl

@[simp] theorem throwIf_none (w : σ) : throwIf none w = .ok () w := rfl

@[simp] theorem throwIf_some (e : Exn) (w : σ) : throwIf (some e) w = .error e w := rfl

end monad

namespace World

def Idle (w : World F κ) : Prop := w.session.saved = none

def withDatabase (w : World F κ) (db : Database F) : World F κ :=
  w.mapSession fun session => { session with database := db }

/-- The world after a call of the callback, if there is one. -/
def told (w : World F κ) (callback : Option κ) (call : κ → Call F κ) : World F κ :=
  { w with calls := w.calls ++ (callback.map call).toList }

theorem Idle.withDatabase {w : World F κ} (h : w.Idle) (db : Database F) :
    (w.withDatabase db).Idle :=
  h

theorem Idle.told {w : World F κ} (h : w.Idle) (callback : Option κ) (call : κ → Call F κ) :
    (w.told callback call).Idle := h

theorem Idle.rollback {w : World F κ} (h : w.Idle) : w.mapSession Session.rollback = w := by
  simp [mapSession, Session.rollback_of_none h]

def opened (w : World F κ) : World F κ :=
  w.mapSession fun session => { session with saved := some session.database }

@[simp] theorem opened_database (w : World F κ) :
    w.opened.session.database = w.session.database := rfl

theorem opened_commit {w : World F κ} (h : w.Idle) (db : Database F) :
    (w.opened.withDatabase db).mapSession Session.commit = w.withDatabase db := by
  have hs : w.session.saved = none := h
  simp [opened, World.withDatabase, mapSession, Session.commit, hs]

theorem opened_rollback {w : World F κ} (h : w.Idle) (db : Database F) :
    (w.opened.withDatabase db).mapSession Session.rollback = w := by
  obtain ⟨⟨database, saved⟩, calls⟩ := w
  obtain rfl : saved = none := h
  rfl

end World

namespace Transaction

theorem begin_apply {w : World F κ} (hw : w.Idle) :
    begin o w = match o.begin with
      | some e => .error e w
      | none => .ok ⟨⟩ w.opened := by
  have hs : w.session.saved = none := hw
  have hbegin : w.session.begin = some { w.session with saved := some w.session.database } := by
    simp [Session.begin, Session.isTransaction, hs]
  unfold begin
  rw [bind_apply]
  cases o.begin with
  | some e => rfl
  | none =>
    simp only [throwIf_none, bind_apply, get_apply, hbegin]
    rfl

theorem commit_apply (w : World F κ) :
    commit o w = match o.commit with
      | some e => .error e w
      | none => .ok ⟨⟩ (w.mapSession Session.commit) := by
  unfold commit
  rw [bind_apply]
  cases o.commit <;> rfl

theorem scope_apply {w : World F κ} (hw : w.Idle) (body : JobM F κ Unit) :
    scope o body w = match o.begin with
      | some e => .error e w
      | none => destroy (body w.opened) := by
  unfold scope
  rw [begin_apply hw]
  cases o.begin <;> rfl

end Transaction

theorem invokeIf_apply (callback : Option κ) (call : κ → Call F κ) (fault : Option Exn)
    (w : World F κ) :
    invokeIf World.record callback call fault w =
      match callback, fault with
      | some _, some e => .error e (w.told callback call)
      | _, _ => .ok ⟨⟩ (w.told callback call) := by
  cases callback with
  | none => simp [invokeIf, World.told]
  | some k => cases fault <;> rfl

namespace PutDataJob

/-- What the INSERT statements from the `n`-th on make of the database. -/
def inserts (s : Schema F T) (o : Faults c) : ℕ → Database F → List T → Except Exn (Database F)
  | _, db, [] => .ok db
  | n, db, value :: model =>
    match o.insert n with
    | some e => .error e
    | none =>
      match db.insert c s.insertInto s.placeholders (s.use value) with
      | some db => inserts s o (n + 1) db model
      | none => .error .poco

/-- What the transaction makes of the database, if it is committed. -/
def attempt (s : Schema F T) (o : Faults c) (db : Database F) (model : List T) :
    Except Exn (Database F) :=
  match o.begin with
  | some e => .error e
  | none =>
    match inserts s o 0 db model with
    | .error e => .error e
    | .ok db =>
      match o.commit with
      | some e => .error e
      | none => .ok db

theorem insert_apply (n : ℕ) (value : T) (w : World F κ) :
    insert s o n value w = match o.insert n with
      | some e => .error e w
      | none =>
        match w.session.database.insert c s.insertInto s.placeholders (s.use value) with
        | some db => .ok ⟨⟩ (w.withDatabase db)
        | none => .error .poco w := by
  unfold insert
  rw [bind_apply]
  cases o.insert n with
  | some e => rfl
  | none =>
    simp only [throwIf_none, bind_apply, get_apply]
    cases w.session.database.insert c s.insertInto s.placeholders (s.use value) <;> rfl

/-- The loop does what `inserts` says, or throws what it says after some of it. -/
theorem insertAll_apply (n : ℕ) (model : List T) (w : World F κ) :
    match inserts s o n w.session.database model with
    | .ok db => insertAll s o n model w = .ok ⟨⟩ (w.withDatabase db)
    | .error e => ∃ db, insertAll s o n model w = .error e (w.withDatabase db) := by
  induction model generalizing n w with
  | nil => rfl
  | cons value model ih =>
    simp only [inserts, insertAll, bind_apply, insert_apply]
    cases o.insert n with
    | some e => exact ⟨w.session.database, rfl⟩
    | none =>
      cases hdb : w.session.database.insert c s.insertInto s.placeholders (s.use value) with
      | none => exact ⟨w.session.database, rfl⟩
      | some db => exact ih (n + 1) (w.withDatabase db)

variable {w : World F κ} {model : List T} {callback : Option κ} {db : Database F} {e : Exn}

/-- A transaction that runs to its commit keeps what its statements did. -/
theorem scope_ok (hw : w.Idle) (h : attempt s o w.session.database model = .ok db) :
    Transaction.scope o (do
        insertAll s o 0 model
        Transaction.commit o
        invokeIf World.record callback (Call.put · true) (o.callback true)) w
      = invokeIf World.record callback (Call.put · true) (o.callback true) (w.withDatabase db) := by
  unfold attempt at h
  rw [Transaction.scope_apply hw]
  cases hb : o.begin with
  | some e => simp [hb] at h
  | none =>
    have hins := insertAll_apply (s := s) (o := o) 0 model w.opened
    simp only [hb, World.opened_database] at h hins ⊢
    cases hi : inserts s o 0 w.session.database model with
    | error e => simp [hi] at h
    | ok db' =>
      cases hc : o.commit with
      | some e => simp [hi, hc] at h
      | none =>
        obtain rfl : db' = db := by simpa [hi, hc] using h
        have hidle : (w.withDatabase db').Idle := hw.withDatabase db'
        simp only [hi] at hins
        simp only [bind_apply, hins, Transaction.commit_apply, hc, World.opened_commit hw]
        rw [invokeIf_apply]
        split <;> simp only [Transaction.destroy, (hidle.told _ _).rollback]

theorem scope_error (hw : w.Idle) (h : attempt s o w.session.database model = .error e) :
    Transaction.scope o (do
        insertAll s o 0 model
        Transaction.commit o
        invokeIf World.record callback (Call.put · true) (o.callback true)) w = .error e w := by
  unfold attempt at h
  rw [Transaction.scope_apply hw]
  cases hb : o.begin with
  | some e' =>
    obtain rfl : e' = e := by simpa [hb] using h
    rfl
  | none =>
    have hins := insertAll_apply (s := s) (o := o) 0 model w.opened
    simp only [hb, World.opened_database] at h hins ⊢
    cases hi : inserts s o 0 w.session.database model with
    | error e' =>
      obtain rfl : e' = e := by simpa [hi] using h
      simp only [hi] at hins
      obtain ⟨db', hins⟩ := hins
      simp only [bind_apply, hins, Transaction.destroy, World.opened_rollback hw]
    | ok db' =>
      cases hc : o.commit with
      | none => simp [hi, hc] at h
      | some e' =>
        obtain rfl : e' = e := by simpa [hi, hc] using h
        simp only [hi] at hins
        simp only [bind_apply, hins, Transaction.commit_apply, hc, Transaction.destroy,
          World.opened_rollback hw]

theorem run_ok (hw : w.Idle) (h : attempt s o w.session.database model = .ok db) :
    run s o model callback w
      = catchPoco (invokeIf World.record callback (Call.put · true) (o.callback true))
          (invokeIf World.record callback (Call.put · false) (o.callback false))
          (w.withDatabase db) := by
  simp only [run, catchPoco, scope_ok hw h]

theorem run_poco (hw : w.Idle) (h : attempt s o w.session.database model = .error .poco) :
    run s o model callback w
      = invokeIf World.record callback (Call.put · false) (o.callback false) w := by
  simp only [run, catchPoco, scope_error hw h]

theorem run_std {what : String} (hw : w.Idle)
    (h : attempt s o w.session.database model = .error (.std what)) :
    run s o model callback w = .error (.std what) w := by
  simp only [run, catchPoco, scope_error hw h]

end PutDataJob

namespace GetDataJob

/-- What the loop adds to the model from the `n`-th `execute()` on. -/
def reads (s : Schema F T) (o : Faults c) : ℕ → List (List (Value F)) → T → Except Exn (List T)
  | n, [], _ =>
    match o.execute n with
    | some e => .error e
    | none => .ok []
  | n, row :: rows, data =>
    match o.execute n with
    | some e => .error e
    | none =>
      if rows.isEmpty then .ok [extract c s row data]
      else
        match reads s o (n + 1) rows (extract c s row data) with
        | .error e => .error e
        | .ok model => .ok (extract c s row data :: model)

/-- What the statement delivers. -/
def fetch (s : Schema F T) (o : Faults c) (db : Database F) (low high : Int64) :
    Except Exn (List T) :=
  match o.prepare with
  | some e => .error e
  | none =>
    match db.select c s.selectFrom s.columns "Timestamp" low high o.order with
    | none => .error .poco
    | some rows => reads s o 0 rows s.blank

theorem loop_apply (n : ℕ) (rows : List (List (Value F))) (data : T) (model : List T)
    (w : World F κ) :
    loop s o n rows data model w = match reads s o n rows data with
      | .ok read => .ok (model ++ read) w
      | .error e => .error e w := by
  induction rows generalizing n data model with
  | nil =>
    simp only [loop, reads, bind_apply]
    cases o.execute n <;> simp
  | cons row rows ih =>
    simp only [loop, reads, bind_apply]
    cases o.execute n with
    | some e => rfl
    | none =>
      simp only [throwIf_none]
      split_ifs with hr
      · rfl
      · rw [ih]
        cases reads s o (n + 1) rows (extract c s row data) with
        | error e => rfl
        | ok read => simp [TypedDataModel.add]

theorem prepare_apply (low high : Int64) (w : World F κ) :
    prepare s o low high w = match o.prepare with
      | some e => .error e w
      | none =>
        match w.session.database.select c s.selectFrom s.columns "Timestamp" low high o.order with
        | some rows => .ok rows w
        | none => .error .poco w := by
  unfold prepare
  rw [bind_apply]
  cases o.prepare with
  | some e => rfl
  | none =>
    simp only [throwIf_none, bind_apply, get_apply]
    cases w.session.database.select c s.selectFrom s.columns "Timestamp" low high o.order <;> rfl

/-- The `try` block up to the callback. -/
theorem body_apply {S : Sensor} {s : Schema F (S.Data F)} (low high : Int64) (callback : Option κ)
    (w : World F κ) :
    (do
        let rows ← prepare s o low high
        let model ← loop s o 0 rows s.blank []
        invokeIf World.record callback (Call.get · (some ⟨S, model⟩) true) (o.callback true)) w
      = match fetch s o w.session.database low high with
        | .error e => .error e w
        | .ok model =>
          invokeIf World.record callback (Call.get · (some ⟨S, model⟩) true) (o.callback true)
            w := by
  simp only [bind_apply, prepare_apply, fetch]
  cases o.prepare with
  | some e => rfl
  | none =>
    cases w.session.database.select c s.selectFrom s.columns "Timestamp" low high o.order with
    | none => rfl
    | some rows =>
      simp only [loop_apply]
      cases reads s o 0 rows s.blank <;> simp

end GetDataJob

namespace Job

variable [Zero F]

/-- What a job makes of the database and reports on success, or what its statements throw. -/
def effect (o : Faults c) (db : Database F) : Job F κ → Except Exn (Database F × (κ → Call F κ))
  | put S model _ =>
    match PutDataJob.attempt S.accessor o db model with
    | .error e => .error e
    | .ok db => .ok (db, (Call.put · true))
  | get S low high _ =>
    match GetDataJob.fetch S.accessor o db low high with
    | .error e => .error e
    | .ok model => .ok (db, (Call.get · (some ⟨S, model⟩) true))

theorem run_apply {w : World F κ} (hw : w.Idle) (job : Job F κ) :
    job.run o w = match job.effect o w.session.database with
      | .ok (db, call) => catchPoco (invokeIf World.record job.callback call (o.callback true))
          (invokeIf World.record job.callback job.failed (o.callback false)) (w.withDatabase db)
      | .error .poco => invokeIf World.record job.callback job.failed (o.callback false) w
      | .error (.std what) => .error (.std what) w := by
  cases job with
  | put S model callback =>
    simp only [run, effect]
    cases ha : PutDataJob.attempt S.accessor o w.session.database model with
    | ok db => exact PutDataJob.run_ok hw ha
    | error e =>
      cases e with
      | poco => exact PutDataJob.run_poco hw ha
      | std what => exact PutDataJob.run_std hw ha
  | get S low high callback =>
    simp only [run, effect, GetDataJob.run, catchPoco, GetDataJob.body_apply]
    cases GetDataJob.fetch S.accessor o w.session.database low high with
    | ok model => rfl
    | error e => cases e <;> rfl

/-- A job leaves no transaction open, makes of the database what its statements do, and calls its
callback as `answers` says. -/
theorem execute_world {w : World F κ} (hw : w.Idle) (job : Job F κ) :
    (job.execute o w).1 =
      { session := ⟨match job.effect o w.session.database with
          | .ok (db, _) => db
          | .error _ => w.session.database, none⟩,
        calls := w.calls ++ job.answers o (job.effect o w.session.database) } := by
  obtain ⟨⟨database, saved⟩, calls⟩ := w
  have hs : saved = none := hw
  subst hs
  unfold execute
  rw [run_apply hw]
  dsimp only
  cases job.effect o database with
  | ok r =>
    simp only [catchPoco, invokeIf_apply, answers]
    cases job.callback with
    | none => simp [World.told, World.withDatabase, World.mapSession]
    | some k =>
      cases o.callback true with
      | none => simp [World.told, World.withDatabase, World.mapSession]
      | some e =>
        cases e with
        | std what => simp [World.told, World.withDatabase, World.mapSession]
        | poco =>
          cases o.callback false <;> simp [World.told, World.withDatabase, World.mapSession]
  | error e =>
    cases e with
    | std what => simp [answers]
    | poco =>
      simp only [invokeIf_apply, answers]
      cases job.callback with
      | none => simp [World.told]
      | some k => cases o.callback false <;> simp [World.told]

end Job

end SensorityCollector
