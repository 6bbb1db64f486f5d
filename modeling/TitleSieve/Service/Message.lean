import TitleSieve.Json.Value

/-!
Requests to the service and its responses. A body is data or a text with the type of its content; a
response is data or plain text.
-/

namespace TitleSieve.Service

inductive Body where
  | absent
  | data (value : Json.Value)
  | text (contentType content : Text)

structure Request where
  method : Text
  address : Text
  body : Body

inductive Content where
  | data (value : Json.Value)
  | text (content : Text)

structure Response where
  status : Nat
  content : Content

namespace Response

def record (fields : List (String × Json.Value)) : Json.Value :=
  .object (fields.map fun (name, value) => (name.toList, value))

def answered (value : Json.Value) : Response := ⟨200, .data value⟩

def refused (status : Nat) (detail : String) : Response :=
  ⟨status, .data (record [("detail", .string detail)])⟩

/-- The response when a request cannot be brought to an end. -/
def failed : Response := ⟨500, .text "Internal Server Error".toList⟩

end Response

end TitleSieve.Service
