import TitleSieve.Text.Basic

/-!
The outer form of a rule's text. Semicolons of either width separate segments, and blanks around a
segment do not belong to it. A segment between slashes with something in between holds a pattern;
any other segment lists literals separated by bars.
-/

namespace TitleSieve.Rule

open Text

def wideSemicolon : Char := '；'

def isSeparator (c : Char) : Bool := c == ';' || c == wideSemicolon

/-- The trimmed pieces between separators, without the empty ones. -/
def segments (raw : Text) : List Text :=
  ((split isSeparator raw).map trim).filter (!·.isEmpty)

def literals (segment : Text) : List Text :=
  ((split (· == '|') segment).map trim).filter (!·.isEmpty)

def patternBody? (segment : Text) : Option Text :=
  if 2 < segment.length && segment.head? == some '/' && segment.getLast? == some '/' then
    some segment.tail.dropLast
  else none

/-- A rule as it is shown to its user: every separator is wide. -/
def display (raw : Text) : Text := raw.map fun c => if c = ';' then wideSemicolon else c

end TitleSieve.Rule
