import TitleSieve.Pattern.Error
import TitleSieve.Scan

/-!
The text of a pattern cut into tokens: single characters, and characters under a backslash. A source
is what is left to read together with its position. A backslash that ends the pattern is an error as
soon as the token before it has been read.
-/

namespace TitleSieve.Pattern

inductive Token where
  | plain (c : Char)
  | escaped (c : Char)
  | dangling
  deriving DecidableEq, Repr

namespace Token

def width : Token → Nat
  | .escaped _ => 2
  | _ => 1

def text : Token → Text
  | .plain c => [c]
  | .escaped c => ['\\', c]
  | .dangling => ['\\']

def ofText : Text → List Token
  | [] => []
  | '\\' :: c :: rest => .escaped c :: ofText rest
  | ['\\'] => [.dangling]
  | c :: rest => .plain c :: ofText rest

end Token

structure Source where
  position : Nat
  tokens : List Token
  deriving DecidableEq, Repr

abbrev Reading := Except ReadError

def malformed {α : Type} (cause : Cause) (position : Nat) : Reading α :=
  .error (.malformed cause (some position))

def refused {α : Type} (excess : Excess) : Reading α := .error (.refused excess)

namespace Source

def make (position : Nat) : List Token → Reading Source
  | .dangling :: _ => malformed .trailingBackslash position
  | tokens => .ok ⟨position, tokens⟩

def ofText (body : Text) : Reading Source := Source.make 0 (Token.ofText body)

def next? (src : Source) : Option Token := src.tokens.head?

def nextPlain? (src : Source) : Option Char :=
  match src.tokens with
  | .plain c :: _ => some c
  | _ => none

def advance (src : Source) : Reading Source :=
  match src.tokens with
  | [] => .ok src
  | token :: rest => Source.make (src.position + token.width) rest

def accept (src : Source) (c : Char) : Reading (Bool × Source) :=
  if src.nextPlain? == some c then (src.advance).map fun rest => (true, rest)
  else .ok (false, src)

def get (src : Source) : Reading (Option Token × Source) :=
  match src.tokens with
  | [] => .ok (none, src)
  | token :: _ => (src.advance).map fun rest => (some token, rest)

/-- At most `limit` plain characters of a kind. -/
def getWhile (admits : Char → Bool) : Nat → Source → Reading (Text × Source)
  | 0, src => .ok ([], src)
  | limit + 1, src =>
    match src.nextPlain? with
    | some c =>
      if admits c then do
        let rest ← src.advance
        let (more, last) ← getWhile admits limit rest
        return (c :: more, last)
      else .ok ([], src)
    | none => .ok ([], src)

end Source

inductive Move (σ ρ : Type) where
  | more (state : σ) (rest : Source)
  | done (result : ρ)

/-- Reads on step by step; the position is part of the state. -/
def Source.scan {σ ρ : Type} (src : Source) (state : σ) (step : σ → Source → Reading (Move σ ρ))
    (atEnd : σ → Nat → Reading ρ) : Reading ρ :=
  TitleSieve.scan
    (fun (state, position) tokens =>
      match step state ⟨position, tokens⟩ with
      | .error e => .error e
      | .ok (.done result) => .ok (.done result)
      | .ok (.more next rest) => .ok (.more (next, rest.position) rest.tokens))
    (fun (state, position) => atEnd state position) (state, src.position) src.tokens

/-- A name up to a terminator; the name must not be empty. -/
def Source.nameUntil (src : Source) (terminator : Char) (what : String) :
    Reading (Text × Source) :=
  src.scan ([] : Text)
    (fun name here => do
      let (token, rest) ← here.get
      match token with
      | none => malformed (.missingName what) here.position
      | some token =>
        if token = .plain terminator then
          if name.isEmpty then malformed (.missingName what) (rest.position - 1)
          else return .done (name, rest)
        else return .more (name ++ token.text) rest)
    fun name position =>
      if name.isEmpty then malformed (.missingName what) position
      else malformed (.unterminatedName terminator) (position - name.length)

end TitleSieve.Pattern
