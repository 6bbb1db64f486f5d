import TitleSieve.Number.Double
import TitleSieve.Text.Basic

/-!
Data as JSON knows it. Whole numbers and doubles are told apart, and the fields of an object keep
their order; a field that is given twice keeps its first place and its last value.
-/

namespace TitleSieve.Json

inductive Value where
  | null
  | bool (b : Bool)
  | int (n : Int)
  | double (x : Number.Double)
  | text (t : Text)
  | list (items : List Value)
  | object (fields : List (Text × Value))
  deriving Repr

abbrev Fields := List (Text × Value)

namespace Fields

def set (name : Text) (value : Value) : Fields → Fields
  | [] => [(name, value)]
  | (n, v) :: rest => if n = name then (n, value) :: rest else (n, v) :: set name value rest

def get? (name : Text) (fields : Fields) : Option Value := fields.lookup name

end Fields

namespace Value

def string (s : String) : Value := .text s.toList

def field? (name : String) : Value → Option Value
  | .object fields => Fields.get? name.toList fields
  | _ => none

/-- Whether a datum counts as true: null, zero and everything empty do not. -/
def isTrue : Value → Bool
  | .null => false
  | .bool b => b
  | .int n => n != 0
  | .double x => !x.isInt 0
  | .text t => !t.isEmpty
  | .list items => !items.isEmpty
  | .object fields => !fields.isEmpty

end Value

end TitleSieve.Json
