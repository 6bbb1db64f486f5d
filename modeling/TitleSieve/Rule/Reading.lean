import TitleSieve.Pattern.Reader
import TitleSieve.Rule.Basic
import TitleSieve.Rule.Segments

/-!
Reading a rule from its text. Each segment becomes one group with one term. A pattern with a fault
is kept as a fallback and leaves a warning; a pattern that is refused altogether ends the reading.
-/

namespace TitleSieve

open Pattern

/-- A pattern that was kept as a literal, and its fault. -/
structure Warning where
  body : Text
  cause : Cause
  position : Option Nat
  deriving DecidableEq, Repr

def Warning.message (warning : Warning) : String :=
  "Invalid regex " ++ String.ofList (Text.quoted warning.body) ++ " (" ++
    describeFault warning.body warning.cause warning.position ++ "), matching as literal text"

def Warning.line (warning : Warning) : String :=
  "titlefilter.rules WARNING: " ++ warning.message

structure Warned (α : Type) where
  value : α
  warnings : List Warning
  deriving DecidableEq, Repr

def Term.readPattern (body : Text) : Except Excess (Warned Term) :=
  match Tree.read body with
  | .ok tree => .ok ⟨.pattern body (some tree), []⟩
  | .error (.malformed cause position) => .ok ⟨.pattern body none, [⟨body, cause, position⟩]⟩
  | .error (.refused excess) => .error excess

def Term.read (segment : Text) : Except Excess (Warned Term) :=
  match Rule.patternBody? segment with
  | some body => Term.readPattern body
  | none => .ok ⟨.plain (Rule.literals segment), []⟩

def Group.read (segment : Text) : Except Excess (Warned Group) :=
  match Term.read segment with
  | .ok term => .ok ⟨⟨segment, [term.value]⟩, term.warnings⟩
  | .error excess => .error excess

/-- Reads the segments in order; the first one that is refused decides. -/
def Group.readAll : List Text → Except Excess (Warned (List Group))
  | [] => .ok ⟨[], []⟩
  | segment :: rest =>
    match Group.read segment with
    | .error excess => .error excess
    | .ok group =>
      match Group.readAll rest with
      | .error excess => .error excess
      | .ok groups => .ok ⟨group.value :: groups.value, group.warnings ++ groups.warnings⟩

def Rule.read (raw : Text) : Except Excess (Warned Rule) :=
  match Group.readAll (Rule.segments raw) with
  | .error excess => .error excess
  | .ok groups => .ok ⟨⟨groups.value⟩, groups.warnings⟩

/-- A rule that was not given is the empty rule. -/
def Rule.readGiven (raw : Option Text) : Except Excess (Warned Rule) := Rule.read (raw.getD [])

end TitleSieve
