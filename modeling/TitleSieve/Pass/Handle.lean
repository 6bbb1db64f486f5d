import TitleSieve.Json.Value
import TitleSieve.Number.Shortest
import TitleSieve.Text.Quoted

/-!
Handles of candidates. Data of any kind can be handles: a pass only asks whether a handle can be
looked up among the earlier ones, whether it is found there, and how messages show it. A handle is
found if it is one object with an earlier one or equal to it, so an object that is not equal to
itself is found too.
-/

namespace TitleSieve

/-- What a pass asks of handles. Of handles that can be looked up, equal ones must be looked up in
the same place. -/
class HandleKind (H : Type) where
  /-- The type of a handle that cannot be looked up, as messages name it. -/
  unhashable? : H → Option String
  /-- Whether two handles are one object. -/
  identical : H → H → Bool
  equal : H → H → Bool
  quoted : H → Text

/-- Whether a handle is found where the earlier one was put. -/
def HandleKind.repeats {H : Type} [HandleKind H] (earlier handle : H) : Bool :=
  identical earlier handle || equal earlier handle

/-- An object: the place in which it lies, and what it holds. -/
structure Located (V : Type) where
  place : Nat
  value : V

instance {V : Type} [HandleKind V] : HandleKind (Located V) where
  unhashable? handle := HandleKind.unhashable? handle.value
  identical a b := a.place == b.place
  equal a b := HandleKind.equal a.value b.value
  quoted handle := HandleKind.quoted handle.value

/-- Handles that were read as data. -/
abbrev Handle := Json.Value

namespace Handle

open Json Number

def unhashable? : Handle → Option String
  | .list _ => some "list"
  | .object _ => some "dict"
  | _ => none

inductive Number where
  | whole (n : Int)
  | double (x : Double)

def number? : Handle → Option Number
  | .bool b => some (.whole (if b then 1 else 0))
  | .int n => some (.whole n)
  | .double x => some (.double x)
  | _ => none

/-- Numbers are equal across whole numbers and doubles; the undefined number equals none. -/
def Number.equal : Number → Number → Bool
  | .whole m, .whole n => m == n
  | .whole m, .double x => x.isInt m
  | .double x, .whole n => x.isInt n
  | .double x, .double y => x.alike y

/-- A truth value counts as one or zero. -/
def equal : Handle → Handle → Bool
  | .null, .null => true
  | .text s, .text t => s == t
  | a, b =>
    match number? a, number? b with
    | some m, some n => m.equal n
    | _, _ => false

/-- All data that are read share one undefined number. Whether other data are one object is not
told, as they are equal if they are. -/
def identical : Handle → Handle → Bool
  | .double .undefined, .double .undefined => true
  | _, _ => false

/-- A handle as messages show it; containers are never shown. -/
def quoted : Handle → Text
  | .null => "None".toList
  | .bool true => "True".toList
  | .bool false => "False".toList
  | .int n => (toString n).toList
  | .double x => x.render
  | .text t => Text.quoted t
  | .list _ | .object _ => []

instance : HandleKind Handle := ⟨unhashable?, identical, equal, quoted⟩

end Handle

end TitleSieve
