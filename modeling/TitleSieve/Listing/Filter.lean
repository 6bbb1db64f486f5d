import TitleSieve.Listing.Visibility

/-!
Filtering a listing page: the candidates are read out of the page, a pass decides them, and the
decisions are written back into the page as it was given.
-/

namespace TitleSieve.Listing

inductive FilterFault where
  | page (fault : PageFault)
  | pass (fault : PassFault)

def FilterFault.report? : FilterFault → Option String
  | .page fault => some fault.message
  | .pass fault => fault.report?

structure Filtered where
  candidates : List (Candidate Handle)
  pass : Pass Handle
  /-- The page with the decisions of the pass. -/
  written : Except PageFault Text

def filter (converter : Converter) (caching : Bool) (raw : Option Text) (html : Text) :
    Except FilterFault Filtered × Ledger :=
  match candidates html with
  | .error fault => (.error (.page fault), .fresh caching)
  | .ok candidates =>
    match Pass.run converter caching raw candidates with
    | (.error fault, ledger) => (.error (.pass fault), ledger)
    | (.ok pass, ledger) =>
      (.ok ⟨candidates, pass, applyDecisions html (decisionsOf pass.decisions)⟩, ledger)

end TitleSieve.Listing
