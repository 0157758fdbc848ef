import VolumeHandover.Double
import VolumeHandover.Table

set_option autoImplicit false

/-! # JSON values

A number is kept as an integer when it was written as one that fits 64 bits, and else as a
double; minus zero is a double. The fields of an object are kept in increasing key order; every
value that this library reads or builds is of that form.
-/

namespace VolumeHandover

inductive Json where
  | null
  | bool (value : Bool)
  | int (value : Int)
  | real (value : Double)
  | text (value : String)
  | list (items : List Json)
  | object (fields : List (String × Json))
deriving Inhabited, BEq, Repr

namespace Json

/-- The fields of an object; any other value has none. -/
def fields : Json → List (String × Json)
  | .object fields => fields
  | _ => []

def get? (j : Json) (key : String) : Option Json := valueAt? key j.fields

/-- The object of the given fields; the later of two with one key counts. -/
def ofFields (fields : List (String × Json)) : Json :=
  .object (fields.foldl (fun fs e => putEntry e.1 e.2 fs) [])

/-- The object of those fields that are present, which are listed in increasing key order. -/
def record (fields : List (String × Option Json)) : Json :=
  .object (fields.filterMap fun (key, value) => value.map (key, ·))

def texts (items : List String) : Json := .list (items.map .text)

/-- A table of texts as an object. -/
def ofTable (t : Table String) : Json := .object (t.entries.map fun (k, v) => (k, .text v))

def nat (n : Nat) : Json := .int n

def ofText? : Option String → Json
  | some s => .text s
  | none => .null

end Json

end VolumeHandover
