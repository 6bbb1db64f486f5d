import TitleSieve.Pattern.Syntax

/-!
Rules. A rule is a list of groups and asks that every group is met; a group is met when one of its
terms is. A term is a list of literal alternatives or a pattern. A pattern whose body cannot be read
is kept without a tree and later stands for its body as a literal.
-/

namespace TitleSieve

inductive Term where
  | plain (alternatives : List Text)
  | pattern (body : Text) (tree : Option Pattern.Tree)
  /-- A term of a kind that is not known, with the name of that kind. -/
  | unknown (kind : Text)
  deriving DecidableEq, Repr

namespace Term

def isFallback : Term → Bool
  | .pattern _ none => true
  | _ => false

end Term

structure Group where
  source : Text
  terms : List Term
  deriving DecidableEq, Repr

structure Rule where
  groups : List Group
  deriving DecidableEq, Repr

namespace Rule

def everything : Rule := ⟨[]⟩

/-- A rule without groups is met by every title. -/
def matchesAll (rule : Rule) : Bool := rule.groups.isEmpty

def groupCount (rule : Rule) : Nat := rule.groups.length

def fallbackCount (rule : Rule) : Nat :=
  (rule.groups.flatMap Group.terms).countP Term.isFallback

end Rule

end TitleSieve
