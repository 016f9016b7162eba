import SensorityCollector.Schema

/-!
# Reading a model from JSON

`TypedDataModel::parseArray` and the models' `parseItem`. Poco's parser and `getValue<float>` are
given by what they return or, as `none`, that they throw; the clock by what its readings within
one call are, in their order.
-/

namespace SensorityCollector

/-- A `Poco::Exception`, or another `std::exception` with its text. -/
inductive Exn
  | poco
  | std (what : String)
  deriving DecidableEq, Repr

/-- A parsed JSON value; `V` is all that is neither an array nor an object. -/
inductive Var (V : Type)
  | scalar (v : V)
  | array (items : List (Var V))
  | object (members : List (String × Var V))

/-- What is taken from Poco and SQLite. -/
structure Platform (V F : Type) where
  parse : List UInt8 → Option (Var V)
  convert : Var V → Option F
  numbers : Sql.Numbers F

variable {V F T : Type}

/-- `Array::getObject` of the element. -/
def Var.getObject : Var V → Option (List (String × Var V))
  | .object members => some members
  | .scalar _ | .array _ => none

/-- `getValue<float>(key)`: the conversion of a missing key's empty value throws as well. -/
def Platform.getValue (p : Platform V F) (object : List (String × Var V)) (key : String) :
    Option F :=
  (object.lookup key).bind p.convert

namespace Schema

/-- The assignments of `parseItem`, up to the first that throws. -/
def assign (p : Platform V F) (object : List (String × Var V)) :
    List (String × (F → T → T)) → T → Bool × T
  | [], data => (true, data)
  | (key, set) :: keys, data =>
    match p.getValue object key with
    | some x => assign p object keys (set x data)
    | none => (false, data)

/-- `tick` is the number of clock readings made before. -/
def parseItem (p : Platform V F) (s : Schema F T) (clock : ℕ → Int64)
    (object : List (String × Var V)) (data : T) (tick : ℕ) : Bool × T × ℕ :=
  match assign p object s.keys data with
  | (true, data) => (true, s.stamp (clock tick) data, tick + 1)
  | (false, data) => (false, data, tick)

end Schema

namespace TypedDataModel

def clear (_values : List T) : List T := []

def add (values : List T) (data : T) : List T := values ++ [data]

/-- The loop of `parseArray`: every element is read into the one `data`. -/
def parseItems (p : Platform V F) (s : Schema F T) (clock : ℕ → Int64) :
    List (Var V) → T → ℕ → List T → List T
  | [], _, _, values => values
  | item :: items, data, tick, values =>
    match item.getObject with
    | none => parseItems p s clock items data tick values
    | some object =>
      match s.parseItem p clock object data tick with
      | (true, data, tick) => parseItems p s clock items data tick (add values data)
      | (false, data, tick) => parseItems p s clock items data tick values

/-- What the call returns or throws, and what it leaves in the model. -/
def parseArray (p : Platform V F) (s : Schema F T) (clock : ℕ → Int64) (values : List T)
    (input : List UInt8) : Except Exn Bool × List T :=
  let values := clear values
  match p.parse input with
  | none => (.error .poco, values)
  | some (.array items) => (.ok true, parseItems p s clock items s.blank 0 values)
  | some (.scalar _) | some (.object _) => (.ok false, values)

end TypedDataModel

end SensorityCollector
