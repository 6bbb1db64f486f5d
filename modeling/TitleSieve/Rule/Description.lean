import TitleSieve.Rule.Basic

/-!
What a rule's user is told about how it was understood: for each group its source and its terms, and
of a pattern whether its body could be read.
-/

namespace TitleSieve

inductive TermDescription where
  | plain (alternatives : List Text)
  | pattern (body : Text) (valid : Bool)
  deriving DecidableEq, Repr

structure GroupDescription where
  source : Text
  terms : List TermDescription
  deriving DecidableEq, Repr

structure RuleDescription where
  matchesAll : Bool
  groups : List GroupDescription
  deriving DecidableEq, Repr

def Term.describe? : Term → Option TermDescription
  | .plain alternatives => some (.plain alternatives)
  | .pattern body tree => some (.pattern body tree.isSome)
  | .unknown _ => none

def Group.describe (group : Group) : GroupDescription :=
  ⟨group.source, group.terms.filterMap Term.describe?⟩

def Rule.describe (rule : Rule) : RuleDescription :=
  ⟨rule.matchesAll, rule.groups.map Group.describe⟩

end TitleSieve
