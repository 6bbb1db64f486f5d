import TitleSieve.Listing.Titles
import TitleSieve.Markup.Printer

/-!
Writing decisions back into a page. A row that has been decided gets the style that shows or hides
it; rows without a decision and everything else stay as they are.
-/

namespace TitleSieve.Listing

open Markup

/-- Decisions by handle; the first entry of a handle counts. -/
abbrev Decisions := List (Text × Bool)

def styleName : Text := "style".toList

def setDisplay (attributes : Attributes) (visible : Bool) : Attributes :=
  match styleFor? ((attributes.get? styleName).getD []) visible with
  | some style => attributes.set styleName style
  | none => attributes.erase styleName

def decideRow (decisions : Decisions) (index : Nat) (attributes : Attributes) : Attributes :=
  match decisions.lookup (handleOf index) with
  | some visible => setDisplay attributes visible
  | none => attributes

def decideRows (decisions : Decisions) : Nat → Forest → Forest
  | _, .nil => .nil
  | index, .leaf kind content next => .leaf kind content (decideRows decisions index next)
  | index, .element name attributes children next =>
    if isRow name attributes then
      .element name (decideRow decisions index attributes) children
        (decideRows decisions (index + 1) next)
    else .element name attributes children (decideRows decisions index next)

def decidePage? (decisions : Decisions) (page : Forest) : Option Forest :=
  page.updateFirst? isListing (·.updateFirst? isBody fun body => some (decideRows decisions 0 body))

def applyDecisions (html : Text) (decisions : Decisions) : Except PageFault Text :=
  match Forest.read html with
  | .error fault => .error (.markup fault)
  | .ok page =>
    match body page with
    | .error what => .error (.missing what)
    | .ok _ => .ok ((decidePage? decisions page).getD page).write

def decisionsOf (decisions : List (Decision Handle)) : Decisions :=
  decisions.filterMap fun d =>
    match d.handle with
    | .text handle => some (handle, d.visible)
    | _ => none

end TitleSieve.Listing
