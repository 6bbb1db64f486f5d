import TitleSieve.Pattern.CharTest

/-!
The tree of a pattern. Flags are resolved when a pattern is read, so the tree carries none: a test
knows whether it ignores case, an anchor whether it looks at lines. `width` gives the least and the
greatest number of characters a pattern can take; a look-behind needs the two to be equal.
-/

namespace TitleSieve.Pattern

inductive Anchor where
  | textStart
  | lineStart
  | textEnd
  /-- The end of the text, or just before a line feed that ends it. -/
  | finalEnd
  | lineEnd
  | wordEdge (negated ascii : Bool)
  deriving DecidableEq, Repr

inductive Greed where
  | greedy
  | lazy
  | possessive
  deriving DecidableEq, Repr

/-- Least and greatest number of characters; `none` stands for no bound. -/
structure Width where
  least : Nat
  greatest : Option Nat
  deriving DecidableEq, Repr

namespace Width

def zero : Width := ⟨0, some 0⟩

def plus (a b : Width) : Width :=
  ⟨a.least + b.least, match a.greatest, b.greatest with
    | some m, some n => some (m + n)
    | _, _ => none⟩

def either (a b : Width) : Width :=
  ⟨min a.least b.least, match a.greatest, b.greatest with
    | some m, some n => some (max m n)
    | _, _ => none⟩

def times (w : Width) (least : Nat) (most : Option Nat) : Width :=
  ⟨w.least * least, match w.greatest, most with
    | some 0, _ => some 0
    | some m, some n => some (m * n)
    | _, _ => none⟩

end Width

inductive Tree where
  | empty
  | one (test : CharTest)
  | anchor (place : Anchor)
  | seq (first second : Tree)
  | alt (first second : Tree)
  | loop (greed : Greed) (least : Nat) (most : Option Nat) (body : Tree)
  | capture (index : Nat) (body : Tree)
  | atomic (body : Tree)
  | ahead (negated : Bool) (body : Tree)
  | behind (negated : Bool) (body : Tree)
  /-- The text of a capture once more; the width is that of the captured pattern. -/
  | again (fold : Fold) (index : Nat) (width : Width)
  | ifCaptured (index : Nat) (yes no : Tree)
  deriving DecidableEq, Repr

namespace Tree

def width : Tree → Width
  | .empty | .anchor _ | .ahead _ _ | .behind _ _ => .zero
  | .one _ => ⟨1, some 1⟩
  | .seq first second => first.width.plus second.width
  | .alt first second => first.width.either second.width
  | .loop _ least most body => body.width.times least most
  | .capture _ body | .atomic body => body.width
  | .again _ _ width => width
  | .ifCaptured _ yes no => yes.width.either no.width

def sequence : List Tree → Tree
  | [] => .empty
  | [p] => p
  | p :: rest => .seq p (sequence rest)

def alternatives : List Tree → Tree
  | [] => .empty
  | [p] => p
  | p :: rest => .alt p (alternatives rest)

end Tree

end TitleSieve.Pattern
