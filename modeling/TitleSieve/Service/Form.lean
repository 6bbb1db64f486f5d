import TitleSieve.Service.Issue

/-!
The forms that requests bring in their bodies. Fields that a form does not know are passed over; a
rule that is not given is empty. The handles of one form are all different. Rules, handles and
titles with a lone half of a pair of surrogates are left out: they are no texts here, so a form that
brings one comes to an issue that cannot be sent.
-/

namespace TitleSieve.Service

open Json

/-- What was read, or all that is wrong with it. -/
abbrev Checked (α : Type) := Except (List Issue) α

namespace Checked

def both {α β : Type} : Checked α → Checked β → Checked (α × β)
  | .ok a, .ok b => .ok (a, b)
  | .ok _, .error issues => .error issues
  | .error issues, .ok _ => .error issues
  | .error issues, .error more => .error (issues ++ more)

def all {α : Type} : List (Checked α) → Checked (List α)
  | [] => .ok []
  | first :: rest => (both first (all rest)).map fun (a, more) => a :: more

end Checked

def readText (place : List Step) : Value → Checked Text
  | .text t => .ok t
  | input => .error [⟨place, .notText, input⟩]

def requiredText (place : List Step) (fields : Fields) (name : String) : Checked Text :=
  match fields.get? name.toList with
  | none => .error [⟨place ++ [.name name], .missing, .object fields⟩]
  | some value => readText (place ++ [.name name]) value

def ruleOf (fields : Fields) : Checked Text :=
  match fields.get? "rule".toList with
  | none => .ok []
  | some value => readText [.name "rule"] value

/-- The first handle that stands in the list before, or among `seen`. -/
def repeated? (seen : List Text) : List Text → Option Text
  | [] => none
  | handle :: rest =>
    if seen.contains handle then some handle else repeated? (handle :: seen) rest

def readCandidate (index : Nat) (value : Value) : Checked (Text × Text) :=
  let place := [.name "candidates", .index index]
  match value with
  | .object fields =>
    .both (requiredText place fields "handle") (requiredText place fields "title")
  | input => .error [⟨place, .notRecord, input⟩]

def readCandidates : Value → Checked (List (Text × Text))
  | .list items =>
    match Checked.all (items.mapIdx readCandidate) with
    | .error issues => .error issues
    | .ok entries =>
      match repeated? [] (entries.map Prod.fst) with
      | some handle => .error [⟨[.name "candidates"], .duplicate handle, .list items⟩]
      | none => .ok entries
  | input => .error [⟨[.name "candidates"], .notList, input⟩]

def candidatesOf (fields : Fields) : Checked (List (Text × Text)) :=
  match fields.get? "candidates".toList with
  | none => .ok []
  | some value => readCandidates value

def htmlOf (fields : Fields) : Checked Text :=
  match requiredText [] fields "html" with
  | .ok [] => .error [⟨[.name "html"], .empty, .text []⟩]
  | checked => checked

/-- A form is a record that was sent. -/
def readRecord : Option Value → Checked Fields
  | none => .error [⟨[], .missing, .null⟩]
  | some (.object fields) => .ok fields
  | some input => .error [⟨[], .notRecord, input⟩]

structure FilterForm where
  rule : Text
  entries : List (Text × Text)

structure PageForm where
  rule : Text
  html : Text

structure RuleForm where
  rule : Text

def FilterForm.read (body : Option Value) : Checked FilterForm :=
  match readRecord body with
  | .error issues => .error issues
  | .ok fields =>
    (Checked.both (ruleOf fields) (candidatesOf fields)).map fun (rule, entries) => ⟨rule, entries⟩

def PageForm.read (body : Option Value) : Checked PageForm :=
  match readRecord body with
  | .error issues => .error issues
  | .ok fields =>
    (Checked.both (ruleOf fields) (htmlOf fields)).map fun (rule, html) => ⟨rule, html⟩

def RuleForm.read (body : Option Value) : Checked RuleForm :=
  match readRecord body with
  | .error issues => .error issues
  | .ok fields => (ruleOf fields).map RuleForm.mk

end TitleSieve.Service
