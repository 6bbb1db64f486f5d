import TitleSieve.Pattern.Syntax

/-!
The pieces that a pattern is put together from while it is read. A piece remembers what a quantifier
behind it would see. Alternatives that begin alike share their beginning, and alternatives that are
single characters become one set.
-/

namespace TitleSieve.Pattern

inductive Shape where
  | single
  | anchor
  | loop
  | closed
  deriving DecidableEq, Repr

structure Piece where
  shape : Shape
  tree : Tree
  deriving DecidableEq, Repr

def sequenceOf (pieces : List Piece) : Tree := Tree.sequence (pieces.map (·.tree))

/-- A piece, or a group that only holds its pieces together for a quantifier. -/
inductive Item where
  | piece (p : Piece)
  | group (pieces : List Piece)

def Item.pieces : Item → List Piece
  | .piece p => [p]
  | .group pieces => pieces

/-- Pieces that can be told to be the same pattern. -/
def Piece.isPlain (p : Piece) : Bool := p.shape == .single || p.shape == .anchor

def shareStart : List Piece → List (List Piece) → List Piece × List (List Piece)
  | [], others => ([], [] :: others)
  | p :: rest, others =>
    if p.isPlain && others.all (·.head? == some p) then
      let (shared, left) := shareStart rest (others.map List.tail)
      (p :: shared, left)
    else ([], (p :: rest) :: others)

/-- The members of an alternative that is one character. -/
def membersOf? : List Piece → Option (Fold × List Member)
  | [⟨.single, .one (.literal false fold code)⟩] => some (fold, [.code code])
  | [⟨.single, .one (.set false fold members)⟩] => some (fold, members)
  | _ => none

def mergeSets (left : List (List Piece)) : Option CharTest := do
  let sets ← left.mapM membersOf?
  let (fold, _) ← sets.head?
  return .set false fold (sets.flatMap (·.2)).eraseDups

/-- The pieces of a pattern with these alternatives. -/
def combine : List (List Piece) → List Piece
  | [] => []
  | [only] => only
  | first :: others =>
    let (shared, left) := shareStart first others
    match mergeSets left with
    | some test => shared ++ [⟨.single, .one test⟩]
    | none => shared ++ [⟨.closed, Tree.alternatives (left.map sequenceOf)⟩]

end TitleSieve.Pattern
