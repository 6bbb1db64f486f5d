import TitleSieve.Json.Reader
import TitleSieve.Service.Form
import TitleSieve.Text.Lowercase

/-!
Reading bodies. Content is read as JSON if its type says so and is taken as one text otherwise. A
body that is empty or null counts as absent.
-/

namespace TitleSieve.Service

open Json

/-- The main type and the subtype of a content type, without parameters and in lower case. -/
def contentType? (t : Text) : Option (Text × Text) :=
  match Text.split (· == '/') (Text.trim (t.takeWhile (· != ';'))) with
  | [main, sub] => some (Text.lower main, Text.lower sub)
  | _ => none

def isJson (contentType : Text) : Bool :=
  match contentType? contentType with
  | some (main, sub) =>
    main == "application".toList && (sub == "json".toList || "+json".toList.isSuffixOf sub)
  | none => false

inductive Refusal where
  | issues (issues : List Issue)
  | unreadable

def Refusal.response : Refusal → Response
  | .issues found => .ofIssues found
  | .unreadable => .refused 400 "There was an error parsing the body"

/-- A mark of the order of bytes in front is no part of the content. -/
def withoutMark : Text → Text
  | '\ufeff' :: rest => rest
  | t => t

def refusalOf (content : Text) (error : Json.Error) : Refusal :=
  match error.fault with
  | .tooManyDigits _ => .unreadable
  | fault => .issues [⟨[.index (error.position content)], .malformed fault.message, .object []⟩]

def present? : Value → Option Value
  | .null => none
  | value => some value

def Body.read : Body → Except Refusal (Option Value)
  | .absent => .ok none
  | .data value => .ok (present? value)
  | .text contentType content =>
    if content.isEmpty then .ok none
    else if isJson contentType then
      let content := withoutMark content
      match Value.read content with
      | .ok value => .ok (present? value)
      | .error error => .error (refusalOf content error)
    else .ok (some (.text content))

def Body.form {α : Type} (read : Option Value → Checked α) (body : Body) : Except Refusal α :=
  match body.read with
  | .error refusal => .error refusal
  | .ok value => (read value).mapError .issues

end TitleSieve.Service
