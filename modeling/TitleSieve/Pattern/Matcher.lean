import TitleSieve.Pattern.Syntax

/-!
Backtracking search. `run` tries a pattern at a place and hands every way to match it, in the order
of preference, to the rest of the search, which answers with the place where everything has matched
or refuses and thereby asks for the next way. A pattern is found in a text if it matches from some
place. Captures record where a group last began and ended; both ends are kept apart, since a group
that is entered again keeps its old end until it closes.
-/

namespace TitleSieve.Pattern

/-- A place in the subject and the group boundaries passed on the way to it, latest first. -/
structure Place where
  position : Nat
  begun : List (Nat × Nat)
  ended : List (Nat × Nat)
  deriving DecidableEq, Repr

namespace Place

def start (position : Nat) : Place := ⟨position, [], []⟩

/-- Where a group that has been closed begins and ends. -/
def span? (place : Place) (index : Nat) : Option (Nat × Nat) :=
  match place.begun.lookup index, place.ended.lookup index with
  | some first, some last => if first ≤ last then some (first, last) else none
  | _, _ => none

def begin (place : Place) (index : Nat) : Place :=
  { place with begun := (index, place.position) :: place.begun }

def finish (place : Place) (index : Nat) : Place :=
  { place with ended := (index, place.position) :: place.ended }

end Place

/-- The rest of a search. -/
abbrev Rest := Place → Option Place

abbrev Subject := Array Char

def Subject.code? (subject : Subject) (position : Nat) : Option Nat :=
  subject[position]?.map Char.toNat

def Subject.wordAt (subject : Subject) (ascii : Bool) (position : Nat) : Bool :=
  match subject.code? position with
  | some code => Kind.word.holds ascii code
  | none => false

def Subject.wordBefore (subject : Subject) (ascii : Bool) (position : Nat) : Bool :=
  position != 0 && subject.wordAt ascii (position - 1)

/-- An empty subject has neither word edges nor places that are no word edge. -/
def Anchor.holds (subject : Subject) (position : Nat) : Anchor → Bool
  | .textStart => position == 0
  | .lineStart => position == 0 || subject.code? (position - 1) == some 10
  | .textEnd => position == subject.size
  | .finalEnd =>
    position == subject.size ||
      (position + 1 == subject.size && subject.code? position == some 10)
  | .lineEnd => position == subject.size || subject.code? position == some 10
  | .wordEdge negated ascii =>
    subject.size != 0 &&
      (subject.wordBefore ascii position != subject.wordAt ascii position) != negated

/-- Where the part of the subject from `first` to `last` ends when it stands once more at
`position`. -/
def repeatEnd? (subject : Subject) (fold : Fold) (first last position : Nat) : Option Nat :=
  if position + (last - first) ≤ subject.size &&
      (List.range (last - first)).all fun i =>
        match subject.code? (first + i), subject.code? (position + i) with
        | some a, some b => fold.key a == fold.key b
        | _, _ => false
  then some (position + (last - first)) else none

def times (body : Place → Rest → Option Place) : Nat → Place → Rest → Option Place
  | 0, place, rest => rest place
  | n + 1, place, rest => body place fun next => times body n next rest

/-- How many repetitions are left after one more. -/
def fewer (left : Option Nat) : Option Nat := left.map (· - 1)

/-- Whether one more repetition may start here: some are left, and the last one did not start
here. -/
def mayRepeat (left last : Option Nat) (place : Place) : Bool :=
  left != some 0 && last != some place.position

/-- As many repetitions as possible, then fewer. Each starts later than the one before, so `room`
need not exceed the number of places. -/
def greedily (body : Place → Rest → Option Place) :
    Nat → Option Nat → Option Nat → Place → Rest → Option Place
  | 0, _, _, place, rest => rest place
  | room + 1, left, last, place, rest =>
    if mayRepeat left last place then
      match body place fun next =>
        greedily body room (fewer left) (some place.position) next rest with
      | some found => some found
      | none => rest place
    else rest place

/-- As few repetitions as possible, then more. -/
def lazily (body : Place → Rest → Option Place) :
    Nat → Option Nat → Option Nat → Place → Rest → Option Place
  | 0, _, _, place, rest => rest place
  | room + 1, left, last, place, rest =>
    match rest place with
    | some found => some found
    | none =>
      if mayRepeat left last place then
        body place fun next => lazily body room (fewer left) (some place.position) next rest
      else none

/-- As many repetitions as possible, each in the way found first, and none is given back. -/
def possessively (body : Place → Rest → Option Place) :
    Nat → Option Nat → Option Nat → Place → Place
  | 0, _, _, place => place
  | room + 1, left, last, place =>
    if mayRepeat left last place then
      match body place some with
      | some next => possessively body room (fewer left) (some place.position) next
      | none => place
    else place

/-- The first way to match the body so many times, each time in the way found first. -/
def firstTimes (body : Place → Rest → Option Place) : Nat → Place → Option Place
  | 0, place => some place
  | n + 1, place =>
    match body place some with
    | some next => firstTimes body n next
    | none => none

def Tree.run (subject : Subject) : Tree → Place → Rest → Option Place
  | .empty, place, rest => rest place
  | .one test, place, rest =>
    match subject.code? place.position with
    | some code =>
      if test.admits code then rest { place with position := place.position + 1 } else none
    | none => none
  | .anchor mark, place, rest =>
    if mark.holds subject place.position then rest place else none
  | .seq first second, place, rest =>
    first.run subject place fun next => second.run subject next rest
  | .alt first second, place, rest =>
    match first.run subject place rest with
    | some found => some found
    | none => second.run subject place rest
  | .loop greed least most body, place, rest =>
    let room := subject.size + 2
    let left := most.map (· - least)
    match greed with
    | .greedy =>
      times (body.run subject) least place fun next =>
        greedily (body.run subject) room left none next rest
    | .lazy =>
      times (body.run subject) least place fun next =>
        lazily (body.run subject) room left none next rest
    | .possessive =>
      match firstTimes (body.run subject) least place with
      | some next => rest (possessively (body.run subject) room left none next)
      | none => none
  | .capture index body, place, rest =>
    body.run subject (place.begin index) fun next => rest (next.finish index)
  | .atomic body, place, rest =>
    match body.run subject place some with
    | some next => rest next
    | none => none
  | .ahead negated body, place, rest =>
    match body.run subject place some, negated with
    | some next, false => rest { next with position := place.position }
    | none, true => rest place
    | _, _ => none
  | .behind negated body, place, rest =>
    let width := body.width.least
    if width ≤ place.position then
      match body.run subject { place with position := place.position - width } some, negated with
      | some next, false => rest { next with position := place.position }
      | none, true => rest place
      | _, _ => none
    else if negated then rest place
    else none
  | .again fold index _, place, rest =>
    match place.span? index with
    | some (first, last) =>
      match repeatEnd? subject fold first last place.position with
      | some stop => rest { place with position := stop }
      | none => none
    | none => none
  | .ifCaptured index yes no, place, rest =>
    match place.span? index with
    | some _ => yes.run subject place rest
    | none => no.run subject place rest

def Tree.foundIn (tree : Tree) (text : Text) : Bool :=
  let subject := text.toArray
  (List.range (subject.size + 1)).any fun position =>
    (tree.run subject (.start position) some).isSome

end TitleSieve.Pattern
