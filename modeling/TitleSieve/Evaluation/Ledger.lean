import TitleSieve.Variants.Forms

/-!
The ledger of an evaluation: the forms that are already known, if they are kept at all, and the
texts that were submitted to the converter, first one first. A text that could not be converted is
submitted but never known.
-/

namespace TitleSieve

/-- Known forms, in the order in which they became known. -/
abbrev FormsCache := List (Text × Forms)

namespace FormsCache

def known? (cache : FormsCache) (text : Text) : Option Forms := cache.lookup text

def put (text : Text) (forms : Forms) : FormsCache → FormsCache
  | [] => [(text, forms)]
  | (known, old) :: rest =>
    if known = text then (known, forms) :: rest else (known, old) :: put text forms rest

end FormsCache

structure Ledger where
  cache : Option FormsCache
  submitted : List Text

namespace Ledger

def fresh (caching : Bool) : Ledger := ⟨if caching then some [] else none, []⟩

def known? (ledger : Ledger) (text : Text) : Option Forms := ledger.cache.bind (·.known? text)

def submit (ledger : Ledger) (text : Text) : Ledger :=
  { ledger with submitted := ledger.submitted ++ [text] }

def remember (ledger : Ledger) (text : Text) (forms : Forms) : Ledger :=
  { ledger with cache := ledger.cache.map (·.put text forms) }

def forms (converter : Converter) (text : Text) (ledger : Ledger) :
    Except ConversionFault Forms × Ledger :=
  match ledger.known? text with
  | some forms => (.ok forms, ledger)
  | none =>
    match Forms.of converter text with
    | .error fault => (.error fault, ledger.submit text)
    | .ok forms => (.ok forms, (ledger.submit text).remember text forms)

end Ledger

/-- How often the two conversions are asked when these texts are submitted: the second one is not
asked for a text on which the first one fails. -/
def Converter.calls (converter : Converter) (submitted : List Text) : Nat × Nat :=
  (submitted.length, submitted.countP fun text => (converter.toA text).isOk)

end TitleSieve
