import TitleSieve.Markup.Forest

/-!
Building a page from its events. Elements are closed by their end tags and by the end of the page
only; an end tag closes everything up to the nearest open element of its name, and does nothing if
none is open. Adjacent texts are one run, and a run of blanks counts as a single blank unless it
stands in preformatted text.
-/

namespace TitleSieve.Markup

/-- An open element and the branches of its parent before it, latest first. -/
structure OpenElement where
  name : Text
  attributes : Attributes
  before : List Branch

structure Builder where
  /-- Innermost first. -/
  elements : List OpenElement
  /-- The branches of the innermost element so far, latest first. -/
  branches : List Branch
  /-- The run of text that has not ended. -/
  run : Option Text
  /-- Void elements whose end tags would close them once more. -/
  closed : List Text

namespace Builder

def start : Builder := ⟨[], [], none, []⟩

def namesOf (names : List String) : List Text := names.map String.toList

def voidNames : List Text := namesOf
  ["area", "base", "basefont", "bgsound", "br", "col", "command", "embed", "frame", "hr", "image",
   "img", "input", "isindex", "keygen", "link", "menuitem", "meta", "nextid", "param", "source",
   "spacer", "track", "wbr"]

def isVoid (name : Text) : Bool := voidNames.contains name

def preformattedNames : List Text := namesOf ["pre", "textarea"]

/-- Attributes that list words, for elements of any name and for elements of certain names. -/
def listsWords (element name : Text) : Bool :=
  let pairs : List (String × List String) :=
    [("a", ["rel", "rev"]), ("link", ["rel", "rev"]), ("td", ["headers"]), ("th", ["headers"]),
     ("form", ["accept-charset"]), ("object", ["archive"]), ("area", ["rel"]), ("icon", ["sizes"]),
     ("iframe", ["sandbox"]), ("output", ["for"])]
  (namesOf ["class", "accesskey", "dropzone"]).contains name ||
    pairs.any fun (owner, listed) => owner.toList == element && (namesOf listed).contains name

/-- An element's attributes as the page keeps them; listed words are one space apart. -/
def keptAttributes (element : Text) (attributes : Attributes) : Attributes :=
  attributes.merge.map fun (name, value) =>
    (name, if listsWords element name then Text.joinWith [' '] (Text.words value) else value)

def isAsciiBlank (c : Char) : Bool := [' ', '\n', '\t', '\x0c', '\r'].contains c

/-- A run of blanks becomes one line feed, if it has any, or one space. -/
def collapse (content : Text) : Text :=
  if content.all isAsciiBlank then (if content.contains '\n' then ['\n'] else [' ']) else content

def isPreformatted (builder : Builder) : Bool :=
  builder.elements.any fun e => preformattedNames.contains e.name

def runContent (builder : Builder) (content : Text) : Text :=
  if builder.isPreformatted then content else collapse content

def owner (builder : Builder) : Owner :=
  (builder.elements.findSome? fun e => ownOwner? e.name).getD .page

def add (builder : Builder) (branch : Branch) : Builder :=
  { builder with branches := branch :: builder.branches }

def flush (builder : Builder) : Builder :=
  match builder.run with
  | none => builder
  | some content =>
    { builder with run := none }.add (.leaf (.text builder.owner) (builder.runContent content))

def push (builder : Builder) (name : Text) (attributes : Attributes) : Builder :=
  { builder with
    elements := ⟨name, attributes, builder.branches⟩ :: builder.elements
    branches := [] }

def closeElement (element : OpenElement) (children : List Branch) : List Branch :=
  .element element.name element.attributes (.ofBranches children) :: element.before

def closeUpTo (name : Text) : List OpenElement → List Branch → List OpenElement × List Branch
  | [], branches => ([], branches)
  | element :: outer, branches =>
    let closed := closeElement element branches
    if element.name = name then (outer, closed) else closeUpTo name outer closed

def close (builder : Builder) (name : Text) : Builder :=
  if builder.elements.any (·.name == name) then
    let (elements, branches) := closeUpTo name builder.elements builder.branches
    { builder with elements := elements, branches := branches }
  else builder

/-- A void element is closed at once, and a later end tag of its name only undoes that. A
self-closing tag closes its own element, whatever void elements of its name have been closed
before. -/
def openElement (builder : Builder) (name : Text) (attributes : Attributes) (selfClosing : Bool) :
    Builder :=
  let opened := builder.flush.push name (keptAttributes name attributes)
  if selfClosing then opened.close name
  else if isVoid name then { opened.close name with closed := name :: builder.closed }
  else opened

def step (builder : Builder) : Event → Builder
  | .text content => { builder with run := some (builder.run.getD [] ++ content) }
  | .opening name attributes selfClosing => builder.openElement name attributes selfClosing
  | .closing name =>
    if builder.closed.contains name then { builder with closed := builder.closed.erase name }
    else builder.flush.close name
  | .insertion kind content =>
    builder.flush.add (.leaf (.insertion kind) (builder.runContent content))

def finish (builder : Builder) : Forest :=
  let builder := builder.flush
  .ofBranches (builder.elements.foldl (fun branches e => closeElement e branches) builder.branches)

end Builder

/-- The page with these events. -/
def Forest.ofEvents (events : List Event) : Forest := (events.foldl Builder.step .start).finish

/-- Reads a page from its text. -/
def Forest.read (t : Text) : Except Fault Forest := (Event.readAll t).map Forest.ofEvents

end TitleSieve.Markup
