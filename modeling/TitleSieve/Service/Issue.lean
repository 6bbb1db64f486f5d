import TitleSieve.Service.Message
import TitleSieve.Text.Quoted

/-!
What is wrong with the body of a request. An issue names its place, its reason and the data found
there. All issues of a body are reported together, in the order of their places.
-/

namespace TitleSieve.Service

open Json

inductive Step where
  | name (name : String)
  | index (index : Nat)
  deriving DecidableEq, Repr

inductive Reason where
  | missing
  | notText
  | notList
  | notRecord
  /-- The text has fewer characters than it must have. -/
  | empty
  | duplicate (handle : Text)
  | malformed (message : String)
  deriving DecidableEq, Repr

namespace Reason

def kind : Reason → String
  | .missing => "missing"
  | .notText => "string_type"
  | .notList => "list_type"
  | .notRecord => "model_attributes_type"
  | .empty => "string_too_short"
  | .duplicate _ => "value_error"
  | .malformed _ => "json_invalid"

def message : Reason → String
  | .missing => "Field required"
  | .notText => "Input should be a valid string"
  | .notList => "Input should be a valid list"
  | .notRecord => "Input should be a valid dictionary or object to extract fields from"
  | .empty => "String should have at least 1 character"
  | .duplicate handle =>
    "Value error, duplicate handle: " ++ String.ofList (Text.quoted handle)
  | .malformed _ => "JSON decode error"

def context : Reason → Option Value
  | .empty => some (Response.record [("min_length", .int 1)])
  | .duplicate _ => some (Response.record [("error", .object [])])
  | .malformed message => some (Response.record [("error", .string message)])
  | _ => none

end Reason

structure Issue where
  place : List Step
  reason : Reason
  input : Value

mutual

/-- Data as they are shown in an issue: fields whose name begins with `_sa` are left out. -/
def shown : Value → Value
  | .list items => .list (shownItems items)
  | .object fields => .object (shownFields fields)
  | value => value

def shownItems : List Value → List Value
  | [] => []
  | item :: rest => shown item :: shownItems rest

def shownFields : List (Text × Value) → List (Text × Value)
  | [] => []
  | (name, value) :: rest =>
    if ['_', 's', 'a'].isPrefixOf name then shownFields rest
    else (name, shown value) :: shownFields rest

end

mutual

/-- Whether data can be sent: numbers that are infinite or undefined cannot. -/
def canBeSent : Value → Bool
  | .double (.infinite _) | .double .undefined => false
  | .list items => itemsCanBeSent items
  | .object fields => fieldsCanBeSent fields
  | _ => true

def itemsCanBeSent : List Value → Bool
  | [] => true
  | item :: rest => canBeSent item && itemsCanBeSent rest

def fieldsCanBeSent : List (Text × Value) → Bool
  | [] => true
  | (_, value) :: rest => canBeSent value && fieldsCanBeSent rest

end

def Step.value : Step → Value
  | .name field => .string field
  | .index i => .int i

def Issue.value (issue : Issue) : Value :=
  Response.record ([("type", .string issue.reason.kind),
    ("loc", .list (.string "body" :: issue.place.map Step.value)),
    ("msg", .string issue.reason.message), ("input", shown issue.input)] ++
    (issue.reason.context.map fun context => ("ctx", context)).toList)

def Response.ofIssues (issues : List Issue) : Response :=
  let detail : Value := .list (issues.map Issue.value)
  if canBeSent detail then ⟨422, .data (Response.record [("detail", detail)])⟩ else .failed

end TitleSieve.Service
