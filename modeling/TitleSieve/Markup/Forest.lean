import TitleSieve.Markup.Event

/-!
Pages as trees. A forest is a row of trees: its first tree, with the children of that tree, and the
trees after it. Text remembers the innermost element around it that keeps its text to itself.
-/

namespace TitleSieve.Markup

/-- Whose text a text is: that of the page, or that of an element which keeps its text to itself. -/
inductive Owner where
  | page
  | script
  | style
  | template
  | rubyText
  | rubyParenthesis
  deriving DecidableEq, Repr

inductive Leaf where
  | text (owner : Owner)
  | insertion (kind : Insertion)
  deriving DecidableEq, Repr

inductive Forest where
  | nil
  | leaf (kind : Leaf) (content : Text) (next : Forest)
  | element (name : Text) (attributes : Attributes) (children next : Forest)
  deriving DecidableEq, Repr

/-- The owner that an element is of the text in it, unless it belongs to the page. -/
def ownOwner? (name : Text) : Option Owner :=
  [("script", Owner.script), ("style", .style), ("template", .template), ("rt", .rubyText),
    ("rp", .rubyParenthesis)].findSome? fun (keeper, owner) =>
      if keeper.toList = name then some owner else none

namespace Attributes

def get? (name : Text) (attributes : Attributes) : Option Text := attributes.lookup name

/-- Sets an attribute; one that is there already keeps its place. -/
def set (name value : Text) : Attributes → Attributes
  | [] => [(name, value)]
  | (n, v) :: rest => if n = name then (n, value) :: rest else (n, v) :: set name value rest

def erase (name : Text) (attributes : Attributes) : Attributes :=
  attributes.filter fun (n, _) => n != name

/-- Of attributes of one name the first gives the place and the last the value. -/
def merge (attributes : Attributes) : Attributes :=
  attributes.foldl (fun merged (name, value) => set name value merged) []

end Attributes

/-- A tree of a forest, on its own. -/
inductive Branch where
  | leaf (kind : Leaf) (content : Text)
  | element (name : Text) (attributes : Attributes) (children : Forest)

namespace Forest

def grow (branch : Branch) (next : Forest) : Forest :=
  match branch with
  | .leaf kind content => .leaf kind content next
  | .element name attributes children => .element name attributes children next

/-- The forest of these branches, latest first. -/
def ofBranches (branches : List Branch) : Forest := branches.foldl (fun next b => grow b next) .nil

abbrev Choice := Text → Attributes → Bool

structure Element where
  name : Text
  attributes : Attributes
  children : Forest
  deriving DecidableEq, Repr

def find? (choice : Choice) : Forest → Option Element
  | .nil => none
  | .leaf _ _ next => next.find? choice
  | .element name attributes children next =>
    if choice name attributes then some ⟨name, attributes, children⟩
    else
      match children.find? choice with
      | some found => some found
      | none => next.find? choice

/-- Changes the children of the first chosen element, if there is one and they can be changed. -/
def updateFirst? (choice : Choice) (change : Forest → Option Forest) : Forest → Option Forest
  | .nil => none
  | .leaf kind content next => (next.updateFirst? choice change).map (.leaf kind content ·)
  | .element name attributes children next =>
    if choice name attributes then
      (change children).map fun children => .element name attributes children next
    else
      match children.find? choice with
      | some _ =>
        (children.updateFirst? choice change).map fun children =>
          .element name attributes children next
      | none => (next.updateFirst? choice change).map (.element name attributes children ·)

def select (choice : Choice) : Forest → List Element
  | .nil => []
  | .leaf _ _ next => next.select choice
  | .element name attributes children next =>
    if choice name attributes then ⟨name, attributes, children⟩ :: next.select choice
    else next.select choice

/-- The texts of one owner, at any depth, one after the other; those of the page include the
insertions that only stand for text. -/
def textOf (owner : Owner) : Forest → Text
  | .nil => []
  | .leaf (.text o) content next => (if o = owner then content else []) ++ next.textOf owner
  | .leaf (.insertion kind) content next =>
    (if kind = .cdata ∧ owner = .page then content else []) ++ next.textOf owner
  | .element _ _ children next => children.textOf owner ++ next.textOf owner

/-- The text of an element is the text that it owns. -/
def Element.text (element : Element) : Text :=
  element.children.textOf ((ownOwner? element.name).getD .page)

end Forest

end TitleSieve.Markup
