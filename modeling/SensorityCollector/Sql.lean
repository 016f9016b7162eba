import Mathlib.Tactic

/-!
# Tables, statements and sessions

As much of SQL as a program relies on that creates tables, appends rows and reads them back by a
range of one integer column. The value of a column is a real or an integer, and the column's
affinity decides which. A statement that does not fit the tables is `none`.
-/

namespace Sql

variable {F : Type*}

inductive Affinity
  | real
  | integer
  deriving DecidableEq, Repr

inductive Value (F : Type*)
  | real (x : F)
  | integer (n : Int64)
  deriving DecidableEq, Repr

/-- How a value of one kind is made one of the other. -/
structure Numbers (F : Type*) where
  toReal : Int64 → F
  toInteger : F → Int64

namespace Value

def affinity : Value F → Affinity
  | .real _ => .real
  | .integer _ => .integer

def asReal (c : Numbers F) : Value F → F
  | .real x => x
  | .integer n => c.toReal n

def asInteger (c : Numbers F) : Value F → Int64
  | .real x => c.toInteger x
  | .integer n => n

/-- What a column of the affinity makes of a value stored in it. -/
def store (c : Numbers F) (v : Value F) : Affinity → Value F
  | .real => .real (v.asReal c)
  | .integer => .integer (v.asInteger c)

end Value

/-- A row, by the names of its columns. -/
abbrev Row (F : Type*) := List (String × Value F)

/-- The value of `column` as an integer. -/
def Row.key (c : Numbers F) (column : String) (row : Row F) : Int64 :=
  ((row.lookup column).map (Value.asInteger c)).getD 0

theorem Row.ext_lookup {row row' : Row F} (hnodup : (row.map Prod.fst).Nodup)
    (hnames : row.map Prod.fst = row'.map Prod.fst)
    (h : ∀ name ∈ row.map Prod.fst, row.lookup name = row'.lookup name) : row = row' := by
  induction row generalizing row' with
  | nil => exact (List.map_eq_nil_iff.1 hnames.symm).symm
  | cons head row ih =>
    rcases row' with _ | ⟨⟨name, v⟩, row'⟩
    · cases hnames
    · obtain ⟨rfl, hrest⟩ := List.cons.inj hnames
      obtain ⟨hnew, hnodup⟩ := List.nodup_cons.1 hnodup
      have hhead := h head.1 (by simp)
      rw [List.lookup_cons_self, List.lookup_cons_self] at hhead
      obtain rfl := Option.some.inj hhead
      have htail : row = row' := by
        refine ih hnodup hrest fun name hname => ?_
        have hne : (name == head.1) = false := by
          simpa using fun he : name = head.1 => hnew (he ▸ hname)
        have hname' := h name (List.mem_cons_of_mem _ hname)
        rwa [List.lookup_cons, List.lookup_cons, hne] at hname'
      rw [htail]

structure Table (F : Type*) where
  columns : List (String × Affinity)
  rows : List (Row F)

namespace Table

/-- Every row has a value of its affinity in each of the columns. -/
def Typed (t : Table F) : Prop := ∀ row ∈ t.rows, row.map (Prod.map id Value.affinity) = t.columns

section typed

variable {name : String} {columns : List (String × Affinity)} {row : Row F}

theorem real_of_typed (h : row.map (Prod.map id Value.affinity) = (name, .real) :: columns) :
    ∃ x rest, row = (name, .real x) :: rest
      ∧ rest.map (Prod.map id Value.affinity) = columns := by
  rcases row with _ | ⟨⟨n, x | t⟩, rest⟩
  · cases h
  · obtain ⟨hn, hrest⟩ := List.cons.inj h
    obtain rfl : n = name := congrArg Prod.fst hn
    exact ⟨x, rest, rfl, hrest⟩
  · cases congrArg Prod.snd (List.cons.inj h).1

theorem integer_of_typed (h : row.map (Prod.map id Value.affinity) = [(name, .integer)]) :
    ∃ t, row = [(name, .integer t)] := by
  rcases row with _ | ⟨⟨n, x | t⟩, rest⟩
  · cases h
  · cases congrArg Prod.snd (List.cons.inj h).1
  · obtain ⟨hn, hrest⟩ := List.cons.inj h
    obtain rfl : n = name := congrArg Prod.fst hn
    obtain rfl : rest = [] := List.map_eq_nil_iff.1 hrest
    exact ⟨t, rfl⟩

end typed

def record (c : Numbers F) (columns : List (String × Affinity)) (values : List (Value F)) : Row F :=
  List.zipWith (fun column v => (column.1, v.store c column.2)) columns values

def append (t : Table F) (rows : List (Row F)) : Table F := { t with rows := t.rows ++ rows }

@[simp] theorem append_nil (t : Table F) : t.append [] = t := by simp [append]

theorem append_append (t : Table F) (rows rows' : List (Row F)) :
    (t.append rows).append rows' = t.append (rows ++ rows') := by simp [append]

@[simp] theorem append_columns (t : Table F) (rows : List (Row F)) :
    (t.append rows).columns = t.columns := rfl

end Table

/-- How rows may come back from `ORDER BY`: by the key, and in any order among equal keys. -/
structure OrderBy {α : Type*} (key : α → Int64) where
  sort : List α → List α
  perm : ∀ rows, (sort rows).Perm rows
  sorted : ∀ rows, (sort rows).Pairwise fun a b => key a ≤ key b

def OrderBy.merge {α : Type*} (key : α → Int64) : OrderBy key where
  sort rows := rows.mergeSort fun a b => key a ≤ key b
  perm rows := List.mergeSort_perm rows _
  sorted rows := by
    have := @List.pairwise_mergeSort α (fun a b => decide (key a ≤ key b))
      (fun a b c hab hbc => by simpa using Int64.le_trans (by simpa using hab) (by simpa using hbc))
      (fun a b => by simpa using Int64.le_total (key a) (key b)) rows
    simpa using this

section order

variable {α : Type*} {key : α → Int64}

/-- By the key, and among equal keys what is equal to `r` before the rest. -/
def Precedes (key : α → Int64) (r a b : α) : Prop :=
  key a ≤ key b ∧ (key a = key b → b = r → a = r)

instance [DecidableEq α] (key : α → Int64) (r a b : α) : Decidable (Precedes key r a b) :=
  inferInstanceAs (Decidable (_ ∧ (_ → _ → _)))

namespace Precedes

variable {r a b d : α}

theorem trans (h : Precedes key r a b) (h' : Precedes key r b d) : Precedes key r a d := by
  refine ⟨Int64.le_trans h.1 h'.1, fun hk hd => ?_⟩
  have hab : key a = key b := Int64.le_antisymm h.1 (hk ▸ h'.1)
  exact h.2 hab (h'.2 (hab ▸ hk) hd)

theorem total (key : α → Int64) (r a b : α) : Precedes key r a b ∨ Precedes key r b a := by
  by_cases hk : key a = key b
  · by_cases ha : a = r
    · exact .inl ⟨hk ▸ Int64.le_refl _, fun _ _ => ha⟩
    · exact .inr ⟨hk ▸ Int64.le_refl _, fun _ h => absurd h ha⟩
  · rcases Int64.le_total (key a) (key b) with h | h
    · exact .inl ⟨h, fun he => absurd he hk⟩
    · exact .inr ⟨h, fun he => absurd he.symm hk⟩

end Precedes

namespace OrderBy

theorem pairwise_precedes [DecidableEq α] (key : α → Int64) (r : α) (rows : List α) :
    (rows.mergeSort fun a b => Precedes key r a b).Pairwise (Precedes key r) := by
  have h := @List.pairwise_mergeSort α (fun a b => decide (Precedes key r a b))
    (fun a b d hab hbd => by simpa using (of_decide_eq_true hab).trans (of_decide_eq_true hbd))
    (fun a b => by simpa using Precedes.total key r a b) rows
  simpa using h

/-- The order that puts what is equal to `r` before what has the same key. -/
def first [DecidableEq α] (key : α → Int64) (r : α) : OrderBy key where
  sort rows := rows.mergeSort fun a b => Precedes key r a b
  perm rows := List.mergeSort_perm rows _
  sorted rows := (pairwise_precedes key r rows).imp And.left

/-- Rows in the order of their keys, no two different ones with the same key, stay in it. -/
theorem sublist_sort (o : OrderBy key) {sent rows : List α} (hsub : sent.Sublist rows)
    (hsorted : sent.Pairwise fun a b => key a ≤ key b)
    (hties : ∀ a ∈ sent, ∀ b ∈ sent, key a = key b → a = b) : sent.Sublist (o.sort rows) := by
  obtain ⟨l, hperm, hl⟩ := (o.perm rows).subperm_left.2 hsub.subperm
  have heq : l = sent := by
    refine List.Perm.eq_of_pairwise (fun a b ha hb hab hba => ?_) ((o.sorted rows).sublist hl)
      hsorted hperm
    exact hties a (hperm.mem_iff.1 ha) b hb (Int64.le_antisymm hab hba)
  exact heq ▸ hl

/-- Two rows with the same key do not come back in this order from every order there is. -/
theorem eq_of_sublist_first [DecidableEq α] {a b : α} {rows : List α}
    (h : [a, b].Sublist ((first key b).sort rows)) (hk : key a = key b) : a = b :=
  (List.pairwise_iff_forall_sublist.1 (pairwise_precedes key b rows) h).2 hk rfl

end OrderBy

end order

abbrev Database (F : Type*) := String → Option (Table F)

namespace Database

/-- `CREATE TABLE IF NOT EXISTS name (columns)`. -/
def create (db : Database F) (name : String) (columns : List (String × Affinity)) : Database F :=
  match db name with
  | some _ => db
  | none => Function.update db name (some ⟨columns, []⟩)

/-- `INSERT INTO name VALUES (?,…,?)` with as many placeholders. -/
def insert (c : Numbers F) (db : Database F) (name : String) (placeholders : ℕ)
    (values : List (Value F)) : Option (Database F) :=
  match db name with
  | none => none
  | some t =>
    if values.length = placeholders ∧ placeholders = t.columns.length then
      some (Function.update db name (some (t.append [Table.record c t.columns values])))
    else none

/-- `SELECT columns FROM name WHERE key>=low AND key<=high ORDER BY key`. -/
def select (c : Numbers F) (db : Database F) (name : String) (columns : List String)
    (key : String) (low high : Int64) (order : OrderBy (Row.key c key)) :
    Option (List (List (Value F))) :=
  match db name with
  | none => none
  | some t =>
    if ∀ column ∈ key :: columns, column ∈ t.columns.map Prod.fst then
      some ((order.sort (t.rows.filter fun row =>
        low ≤ Row.key c key row ∧ Row.key c key row ≤ high)).map fun row =>
          columns.filterMap fun column => row.lookup column)
    else none

theorem create_same (db : Database F) (name : String) (columns : List (String × Affinity)) :
    db.create name columns name = some ((db name).getD ⟨columns, []⟩) := by
  unfold create
  cases h : db name <;> simp [h]

theorem create_other (db : Database F) {name other : String} (h : other ≠ name)
    (columns : List (String × Affinity)) : db.create name columns other = db other := by
  unfold create
  cases db name <;> simp [h]

end Database

/-- The database as the session sees it, and what an open transaction would go back to. -/
structure Session (F : Type*) where
  database : Database F
  saved : Option (Database F)

/-- What has been committed to each file, by the name of the file. -/
abbrev Files (F : Type*) := String → Database F

/-- A connection string for a database that is not kept. -/
def memory : String := ":memory:"

namespace Session

/-- A session on the database of the connection string; a file that is not there has no tables. -/
def connect (files : Files F) (connectionString : String) : Session F where
  database := if connectionString = memory then fun _ => none else files connectionString
  saved := none

/-- What is left of the session: an open transaction is not committed. -/
def close (s : Session F) (files : Files F) (connectionString : String) : Files F :=
  if connectionString = memory then files
  else Function.update files connectionString (s.saved.getD s.database)

def isTransaction (s : Session F) : Bool := s.saved.isSome

/-- There is no transaction within a transaction. -/
def begin (s : Session F) : Option (Session F) :=
  if s.isTransaction then none else some { s with saved := some s.database }

def commit (s : Session F) : Session F := { s with saved := none }

def rollback (s : Session F) : Session F :=
  match s.saved with
  | some db => ⟨db, none⟩
  | none => s

theorem rollback_of_none {s : Session F} (h : s.saved = none) : s.rollback = s := by
  simp [rollback, h]

end Session

end Sql
