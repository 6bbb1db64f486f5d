import TitleSieve.Evaluation.Basic
import TitleSieve.Pass.Handle
import TitleSieve.Rule.Reading

/-!
A filtering pass: the rule is read once, then every candidate is decided in order. The handle of a
candidate is checked before its title is looked at, and the first fault ends the pass.
-/

namespace TitleSieve

structure Candidate (H : Type := Handle) where
  handle : H
  title : Text

structure Decision (H : Type := Handle) where
  handle : H
  visible : Bool

/-- What can be wrong with a pass; a handle is told by the name of its type or as messages show
it. -/
inductive PassFault where
  | rule (excess : Pattern.Excess)
  | unhashable (kind : String)
  | duplicate (shown : Text)
  | evaluation (fault : EvaluationFault)

def PassFault.report? : PassFault → Option String
  | .rule excess => some excess.message
  | .unhashable kind => some ("unhashable type: '" ++ kind ++ "'")
  | .duplicate shown => some ("Duplicate candidate handle: " ++ String.ofList shown)
  | .evaluation fault => fault.report?

structure Summary where
  total : Nat
  visible : Nat
  groupCount : Nat
  fallbackCount : Nat
  deriving DecidableEq, Repr

namespace Summary

def hidden (summary : Summary) : Nat := summary.total - summary.visible

end Summary

structure Pass (H : Type := Handle) where
  decisions : List (Decision H)
  summary : Summary

namespace Pass

variable {H : Type} [HandleKind H]

def handleFault? (decided : List (Decision H)) (handle : H) : Option PassFault :=
  match HandleKind.unhashable? handle with
  | some kind => some (.unhashable kind)
  | none =>
    if decided.any (HandleKind.repeats ·.handle handle) then
      some (.duplicate (HandleKind.quoted handle))
    else none

/-- Decides the candidates one after the other, behind those that are already decided. -/
def decide (converter : Converter) (rule : Rule) :
    List (Decision H) → List (Candidate H) → Ledger → Except PassFault (List (Decision H)) × Ledger
  | decided, [], ledger => (.ok decided, ledger)
  | decided, candidate :: rest, ledger =>
    match handleFault? decided candidate.handle with
    | some fault => (.error fault, ledger)
    | none =>
      match rule.accepts converter candidate.title ledger with
      | (.error fault, ledger) => (.error (.evaluation fault), ledger)
      | (.ok visible, ledger) =>
        decide converter rule (decided ++ [⟨candidate.handle, visible⟩]) rest ledger

def summarize {H : Type} (rule : Rule) (decisions : List (Decision H)) : Summary where
  total := decisions.length
  visible := decisions.countP Decision.visible
  groupCount := rule.groupCount
  fallbackCount := rule.fallbackCount

def ofRule (converter : Converter) (rule : Rule) (candidates : List (Candidate H))
    (ledger : Ledger) : Except PassFault (Pass H) × Ledger :=
  match decide converter rule [] candidates ledger with
  | (.error fault, ledger) => (.error fault, ledger)
  | (.ok decisions, ledger) => (.ok ⟨decisions, summarize rule decisions⟩, ledger)

/-- Runs a pass with a ledger of its own. -/
def run (converter : Converter) (caching : Bool) (raw : Option Text)
    (candidates : List (Candidate H)) : Except PassFault (Pass H) × Ledger :=
  match Rule.readGiven raw with
  | .error excess => (.error (.rule excess), .fresh caching)
  | .ok rule => ofRule converter rule.value candidates (.fresh caching)

end Pass

end TitleSieve
