import TitleSieve.Scan

/-!
Reading a list step by step, seen from outside. A reading that skips goes on behind what it skips,
and one whose step uses a first part of what is left goes on with the rest. What holds at the start
and is kept by every step holds wherever the reading stops.
-/

namespace TitleSieve

variable {α σ ρ ε : Type} {next : σ → List α → Except ε (Progress α σ ρ)} {atEnd : σ → Except ε ρ}

theorem scanFrom_eq_drop (skip : Nat) (state : σ) (items : List α) :
    scanFrom next atEnd skip state items = scanFrom next atEnd 0 state (items.drop skip) := by
  induction items generalizing skip with
  | nil =>
    rw [List.drop_nil]
    cases skip <;> rfl
  | cons head rest ih =>
    cases skip with
    | zero => rfl
    | succ skip => exact ih skip

theorem scanFrom_of_more {state state' : σ} {head : α} {rest left : List α}
    (hstep : next state (head :: rest) = .ok (.more state' left)) :
    scanFrom next atEnd 0 state (head :: rest) =
      scanFrom next atEnd 0 state' (rest.drop (rest.length - left.length)) := by
  rw [scanFrom, hstep]
  exact scanFrom_eq_drop _ _ _

/-- A step that uses a first part of what is left leads on to the rest. -/
theorem scanFrom_of_step {state state' : σ} {used left : List α} (hused : used ≠ [])
    (hstep : next state (used ++ left) = .ok (.more state' left)) :
    scanFrom next atEnd 0 state (used ++ left) = scanFrom next atEnd 0 state' left := by
  obtain ⟨head, rest, rfl⟩ := List.exists_cons_of_ne_nil hused
  rw [List.cons_append] at hstep ⊢
  rw [scanFrom_of_more hstep, List.length_append, Nat.add_sub_cancel, List.drop_left]

/-- What holds at the start and is kept by every step tells where the reading stops. -/
theorem scanFrom_induction {p : σ → List α → Prop} {q : ρ → Prop}
    (hmore : ∀ {state state' head rest left}, p state (head :: rest) →
      next state (head :: rest) = .ok (.more state' left) →
        p state' (rest.drop (rest.length - left.length)))
    (hdone : ∀ {state head rest result}, p state (head :: rest) →
      next state (head :: rest) = .ok (.done result) → q result)
    (hend : ∀ {state result}, p state [] → atEnd state = .ok result → q result)
    {state : σ} {items : List α} (h : p state items) {result : ρ}
    (hresult : scanFrom next atEnd 0 state items = .ok result) : q result := by
  induction hlength : items.length using Nat.strongRecOn generalizing state items with
  | _ n ih =>
    subst hlength
    cases items with
    | nil => exact hend h hresult
    | cons head rest =>
      cases hstep : next state (head :: rest) with
      | error fault =>
        rw [scanFrom, hstep] at hresult
        cases hresult
      | ok progress =>
        cases progress with
        | done found =>
          rw [scanFrom, hstep] at hresult
          cases hresult
          exact hdone h hstep
        | more state' left =>
          rw [scanFrom_of_more hstep] at hresult
          refine ih _ ?_ (hmore h hstep) hresult rfl
          rw [List.length_drop, List.length_cons]
          omega

end TitleSieve
