import TitleSieve.Evaluation.Ledger
import TitleSieve.Pattern.Matcher
import TitleSieve.Rule.Basic

/-!
Evaluating a rule on a title. Groups, terms and literals are tried in order and no further than
needed; the forms of a literal are made when it is reached, those of the title before the first
group. Every function hands the ledger on, also when a conversion fails.
-/

namespace TitleSieve

inductive EvaluationFault where
  | conversion (fault : ConversionFault)
  | unknownTerm (kind : Text)
  deriving DecidableEq, Repr

def EvaluationFault.report? : EvaluationFault → Option String
  | .conversion fault => fault.report?
  | .unknownTerm kind => some ("Unknown term type: " ++ String.ofList kind)

def Forms.meets (title literal : Forms) : Bool := literal.toList.any title.contains

def Pattern.Tree.foundInForms (tree : Pattern.Tree) (title : Forms) : Bool :=
  title.toList.any tree.foundIn

def meetsLiteral (converter : Converter) (title : Forms) :
    List Text → Ledger → Except EvaluationFault Bool × Ledger
  | [], ledger => (.ok false, ledger)
  | literal :: rest, ledger =>
    match ledger.forms converter literal with
    | (.error fault, ledger) => (.error (.conversion fault), ledger)
    | (.ok forms, ledger) =>
      if title.meets forms then (.ok true, ledger) else meetsLiteral converter title rest ledger

/-- A pattern without a tree stands for its body. -/
def Term.metBy (converter : Converter) (title : Forms) :
    Term → Ledger → Except EvaluationFault Bool × Ledger
  | .plain alternatives, ledger => meetsLiteral converter title alternatives ledger
  | .pattern _ (some tree), ledger => (.ok (tree.foundInForms title), ledger)
  | .pattern body none, ledger => meetsLiteral converter title [body] ledger
  | .unknown kind, ledger => (.error (.unknownTerm kind), ledger)

def meetsTerm (converter : Converter) (title : Forms) :
    List Term → Ledger → Except EvaluationFault Bool × Ledger
  | [], ledger => (.ok false, ledger)
  | term :: rest, ledger =>
    match term.metBy converter title ledger with
    | (.ok false, ledger) => meetsTerm converter title rest ledger
    | decided => decided

def meetsGroups (converter : Converter) (title : Forms) :
    List Group → Ledger → Except EvaluationFault Bool × Ledger
  | [], ledger => (.ok true, ledger)
  | group :: rest, ledger =>
    match meetsTerm converter title group.terms ledger with
    | (.ok true, ledger) => meetsGroups converter title rest ledger
    | decided => decided

/-- Whether a title meets a rule; a rule that every title meets does not look at the title. -/
def Rule.accepts (converter : Converter) (rule : Rule) (title : Text) (ledger : Ledger) :
    Except EvaluationFault Bool × Ledger :=
  if rule.matchesAll then (.ok true, ledger)
  else
    match ledger.forms converter title with
    | (.error fault, ledger) => (.error (.conversion fault), ledger)
    | (.ok forms, ledger) => meetsGroups converter forms rule.groups ledger

end TitleSieve
