import TitleSieve.Listing.Style
import TitleSieve.Markup.Builder

/-!
The rows of a listing: the elements `tr` directly in the first `tbody` within the first element that
is marked as the list of topics. A row's handle is its place among the rows, in decimal digits.
-/

namespace TitleSieve.Listing

open Markup

inductive Missing where
  | listing
  | body
  deriving DecidableEq, Repr

def Missing.message : Missing → String
  | .listing => "No element matches '#topic_list'"
  | .body => "'#topic_list' has no <tbody>"

def isListing (_ : Text) (attributes : Attributes) : Bool :=
  attributes.get? "id".toList == some "topic_list".toList

def isBody (name : Text) (_ : Attributes) : Bool := name == "tbody".toList

def isRow (name : Text) (_ : Attributes) : Bool := name == "tr".toList

def isTitle (_ : Text) (attributes : Attributes) : Bool :=
  match attributes.get? "class".toList with
  | none => false
  | some classes => (Text.words classes).contains "title".toList

def body (page : Forest) : Except Missing Forest :=
  match page.find? isListing with
  | none => .error .listing
  | some listing =>
    match listing.children.find? isBody with
    | none => .error .body
    | some body => .ok body.children

def rows (page : Forest) : Except Missing (List Forest.Element) :=
  (body page).map (·.select isRow)

def handleOf (index : Nat) : Text := Nat.toDigits 10 index

/-- The title of a row that has a title cell: the words of its text, one space apart. -/
def rowTitle? (row : Forest.Element) : Option Text :=
  (row.children.find? isTitle).map fun cell => Text.trim (Text.squeeze cell.text)

end TitleSieve.Listing
