import TitleSieve.Listing.Rows
import TitleSieve.Pass.Basic

/-!
The candidates of a listing: one for each row with a title cell, in the order of the rows. Rows
without one are passed over but counted.
-/

namespace TitleSieve.Listing

open Markup

inductive PageFault where
  | markup (fault : Fault)
  | missing (what : Missing)
  deriving DecidableEq, Repr

def rejection : String :=
  "The markup you provided was rejected by the parser. Trying a different parser or a different " ++
    "encoding may help.\n\nOriginal exception(s) from parser:\n AssertionError: "

def PageFault.message : PageFault → String
  | .markup (.tooManyDigits count) => (Fault.tooManyDigits count).message
  | .markup fault => rejection ++ fault.message
  | .missing what => what.message

def titlesFrom : Nat → List Forest.Element → List (Text × Text)
  | _, [] => []
  | index, row :: rest =>
    match rowTitle? row with
    | some title => (handleOf index, title) :: titlesFrom (index + 1) rest
    | none => titlesFrom (index + 1) rest

def titlesOf (page : Forest) : Except Missing (List (Text × Text)) :=
  (rows page).map (titlesFrom 0)

def candidateOf (entry : Text × Text) : Candidate Handle := ⟨.text entry.1, entry.2⟩

def titles (html : Text) : Except PageFault (List (Text × Text)) :=
  match Forest.read html with
  | .error fault => .error (.markup fault)
  | .ok page =>
    match titlesOf page with
    | .error what => .error (.missing what)
    | .ok entries => .ok entries

def candidates (html : Text) : Except PageFault (List (Candidate Handle)) :=
  (titles html).map (·.map candidateOf)

end TitleSieve.Listing
