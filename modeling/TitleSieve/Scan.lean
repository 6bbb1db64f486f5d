/-!
Reading a list step by step. A step looks at what is left and either ends the reading or says what
is left after it; what it used is then skipped element by element, so the recursion is on the list
and needs no measure. A step that uses nothing is taken to have used one element.
-/

namespace TitleSieve

/-- Where a step leads: on to the rest, or to the result. -/
inductive Progress (α σ ρ : Type) where
  | more (state : σ) (rest : List α)
  | done (result : ρ)

def scanFrom {α σ ρ ε : Type} (step : σ → List α → Except ε (Progress α σ ρ))
    (atEnd : σ → Except ε ρ) : Nat → σ → List α → Except ε ρ
  | _, state, [] => atEnd state
  | skip + 1, state, _ :: rest => scanFrom step atEnd skip state rest
  | 0, state, head :: rest =>
    match step state (head :: rest) with
    | .error e => .error e
    | .ok (.done result) => .ok result
    | .ok (.more next left) => scanFrom step atEnd (rest.length - left.length) next rest

/-- Reads a whole list from a first state. -/
def scan {α σ ρ ε : Type} (step : σ → List α → Except ε (Progress α σ ρ))
    (atEnd : σ → Except ε ρ) (state : σ) (items : List α) : Except ε ρ :=
  scanFrom step atEnd 0 state items

end TitleSieve
