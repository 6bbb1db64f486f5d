import Mathlib.Data.List.Infix
import TitleSieve.Pattern.Source

/-!
Reading from a source. What a reading can come to is stated as a condition on its value together
with the excesses for which it may be refused; faults are always allowed. The conditions of readings
that follow one another compose, and each way of reading tokens gets one: it is never refused, and
it says which tokens it has used.
-/

namespace TitleSieve.Pattern

/-- The reading gives a value with a property, or meets a fault, or is refused for an excess that is
allowed. -/
def Ensures {α : Type} (allowed : Excess → Prop) (property : α → Prop) : Reading α → Prop
  | .ok value => property value
  | .error (.malformed _ _) => True
  | .error (.refused excess) => allowed excess

section

variable {α β : Type} {allowed : Excess → Prop} {property : α → Prop} {reading : Reading α}

theorem ensures_ok {value : α} (h : property value) :
    Ensures allowed property (.ok value) := h

theorem ensures_pure {value : α} (h : property value) :
    Ensures allowed property (pure value) := h

theorem ensures_malformed (cause : Cause) (position : Nat) :
    Ensures allowed property (malformed cause position) := trivial

theorem ensures_refused {excess : Excess} (h : allowed excess) :
    Ensures allowed property (refused excess) := h

theorem Ensures.weaken {weaker : α → Prop} (h : Ensures allowed property reading)
    (hweaker : ∀ value, property value → weaker value) : Ensures allowed weaker reading := by
  rcases reading with (⟨cause, position⟩ | excess) | value
  · trivial
  · exact h
  · exact hweaker value h

theorem Ensures.bind {next : α → Reading β} {goal : β → Prop}
    (h : Ensures allowed property reading)
    (hnext : ∀ value, property value → Ensures allowed goal (next value)) :
    Ensures allowed goal (reading >>= next) := by
  rcases reading with (⟨cause, position⟩ | excess) | value
  · trivial
  · exact h
  · exact hnext value h

theorem Ensures.map {f : α → β} {goal : β → Prop} (h : Ensures allowed property reading)
    (hgoal : ∀ value, property value → goal (f value)) :
    Ensures allowed goal (reading.map f) := by
  rcases reading with (⟨cause, position⟩ | excess) | value
  · trivial
  · exact h
  · exact hgoal value h

end

namespace Source

variable {allowed : Excess → Prop} {src : Source}

theorem ensures_make (position : Nat) (tokens : List Token) :
    Ensures allowed (fun src => src.tokens = tokens) (make position tokens) := by
  unfold make
  split
  · exact ensures_malformed ..
  · exact ensures_ok rfl

theorem ensures_advance (src : Source) :
    Ensures allowed (fun rest => rest.tokens = src.tokens.tail) src.advance := by
  unfold advance
  cases htokens : src.tokens with
  | nil => exact ensures_ok htokens
  | cons token rest => exact ensures_make ..

inductive Gives (src : Source) : Option Token × Source → Prop where
  | nothing (h : src.tokens = []) : Gives src (none, src)
  | token {token : Token} {rest : Source} (h : src.tokens = token :: rest.tokens) :
      Gives src (some token, rest)

theorem Gives.suffix {result : Option Token × Source} (h : src.Gives result) :
    result.2.tokens <:+ src.tokens := by
  cases h with
  | nothing => exact List.suffix_rfl
  | token h =>
    rw [h]
    exact List.suffix_cons ..

theorem Gives.suffix_tail {token : Option Token} {rest : Source} (h : src.Gives (token, rest))
    (hne : src.tokens ≠ []) : rest.tokens <:+ src.tokens.tail := by
  cases h with
  | nothing hnil => exact absurd hnil hne
  | token h =>
    rw [h]
    exact List.suffix_rfl

theorem ensures_get (src : Source) : Ensures allowed src.Gives src.get := by
  have hadvance : Ensures allowed _ src.advance := ensures_advance src
  unfold get
  cases htokens : src.tokens with
  | nil => exact ensures_ok (.nothing htokens)
  | cons token rest =>
    refine hadvance.map fun after hafter => .token ?_
    rw [hafter, htokens]
    rfl

theorem nextPlain?_eq_some_iff {c : Char} :
    src.nextPlain? = some c ↔ ∃ rest, src.tokens = .plain c :: rest := by
  unfold nextPlain?
  split
  · rename_i htokens
    simp [htokens, eq_comm]
  · rename_i hplain
    constructor
    · intro h
      cases h
    · rintro ⟨rest, htokens⟩
      exact absurd htokens (hplain c rest)

inductive Accepts (src : Source) (c : Char) : Bool × Source → Prop where
  | moved {rest : Source} (h : src.tokens = .plain c :: rest.tokens) : Accepts src c (true, rest)
  | stayed : Accepts src c (false, src)

theorem Accepts.suffix {c : Char} {result : Bool × Source} (h : src.Accepts c result) :
    result.2.tokens <:+ src.tokens := by
  cases h with
  | moved h =>
    rw [h]
    exact List.suffix_cons ..
  | stayed => exact List.suffix_rfl

theorem ensures_accept (src : Source) (c : Char) :
    Ensures allowed (src.Accepts c) (src.accept c) := by
  unfold accept
  split
  · rename_i hnext
    obtain ⟨rest, htokens⟩ := nextPlain?_eq_some_iff.mp (by simpa using hnext)
    refine (ensures_advance src).map fun after hafter => .moved ?_
    rw [hafter, htokens]
    rfl
  · exact ensures_ok .stayed

theorem ensures_getWhile (admits : Char → Bool) (limit : Nat) (src : Source) :
    Ensures allowed (fun result => src.tokens = result.1.map .plain ++ result.2.tokens ∧
      ∀ c ∈ result.1, admits c = true) (src.getWhile admits limit) := by
  induction limit generalizing src with
  | zero => exact ensures_ok ⟨rfl, by simp⟩
  | succ limit ih =>
    unfold getWhile
    cases hnext : src.nextPlain? with
    | none => exact ensures_ok ⟨rfl, by simp⟩
    | some c =>
      obtain ⟨rest, htokens⟩ := nextPlain?_eq_some_iff.mp hnext
      by_cases hc : admits c = true
      · simp only [hc, if_true]
        refine (ensures_advance src).bind fun after hafter => ?_
        refine (ih after).bind fun more hmore => ensures_pure ⟨?_, ?_⟩
        · rw [List.map_cons, List.cons_append, ← hmore.1, hafter, htokens]
          rfl
        · exact List.forall_mem_cons.mpr ⟨hc, hmore.2⟩
      · simp only [hc]
        exact ensures_ok ⟨rfl, by simp⟩

end Source

/-- Where a step of a scan leads: to a result with a property, or to a state for which the invariant
holds in front of what is left of the items behind the first one. -/
def ProgressKeeps {τ σ ρ : Type} (rest : List τ) (invariant : σ → List τ → Prop)
    (property : ρ → Prop) : Progress τ σ ρ → Prop
  | .more next left => left <:+ rest ∧ invariant next left
  | .done result => property result

theorem ensures_scanFrom {allowed : Excess → Prop} {τ σ ρ : Type}
    {step : σ → List τ → Reading (Progress τ σ ρ)} {atEnd : σ → Reading ρ}
    (invariant : σ → List τ → Prop) {property : ρ → Prop}
    (hstep : ∀ state item rest, invariant state (item :: rest) →
      Ensures allowed (ProgressKeeps rest invariant property) (step state (item :: rest)))
    (hend : ∀ state, invariant state [] → Ensures allowed property (atEnd state))
    {items : List τ} {skip : Nat} {state : σ} (h : invariant state (items.drop skip)) :
    Ensures allowed property (scanFrom step atEnd skip state items) := by
  induction items generalizing skip state with
  | nil =>
    rw [List.drop_nil] at h
    cases skip <;> exact hend state h
  | cons item rest ih =>
    cases skip with
    | succ skip => exact ih h
    | zero =>
      have hmove := hstep state item rest h
      unfold scanFrom
      rcases hresult : step state (item :: rest) with (⟨cause, place⟩ | excess) | next | result
      · trivial
      · rw [hresult] at hmove
        exact hmove
      · -- The items that are skipped next are those that this step has used.
        rw [hresult] at hmove
        obtain ⟨hsuffix, hnext⟩ := hmove
        apply ih
        rwa [← List.suffix_iff_eq_drop.mp hsuffix]
      · rw [hresult] at hmove
        exact hmove

/-- Where a step of a scan of a source leads, in the same way. -/
def Move.Keeps {σ ρ : Type} (src : Source) (invariant : σ → Source → Prop) (property : ρ → Prop) :
    Move σ ρ → Prop
  | .more next left => left.tokens <:+ src.tokens.tail ∧ invariant next left
  | .done result => property result

/-- An invariant that holds at the first place and is kept by every step holds at the end. -/
theorem Source.ensures_scan {allowed : Excess → Prop} {σ ρ : Type}
    {step : σ → Source → Reading (Move σ ρ)} {atEnd : σ → Nat → Reading ρ}
    (invariant : σ → Source → Prop) {property : ρ → Prop}
    (hstep : ∀ state src, invariant state src → src.tokens ≠ [] →
      Ensures allowed (Move.Keeps src invariant property) (step state src))
    (hend : ∀ state position, invariant state ⟨position, []⟩ →
      Ensures allowed property (atEnd state position))
    {state : σ} {src : Source} (h : invariant state src) :
    Ensures allowed property (src.scan state step atEnd) := by
  unfold Source.scan TitleSieve.scan
  refine ensures_scanFrom (fun state tokens => invariant state.1 ⟨state.2, tokens⟩)
    (fun state token rest hstate => ?_) (fun state hstate => hend state.1 state.2 hstate) h
  have hmove := hstep state.1 ⟨state.2, token :: rest⟩ hstate (List.cons_ne_nil _ _)
  simp only
  rcases hresult : step state.1 ⟨state.2, token :: rest⟩ with
    (⟨cause, place⟩ | excess) | next | result
  · trivial
  · rw [hresult] at hmove
    exact hmove
  · rw [hresult] at hmove
    exact hmove
  · rw [hresult] at hmove
    exact hmove

/-- The invariant of a scan of which nothing counts but that it goes on in the same tokens. -/
def Source.Trails {σ : Type} (src : Source) (_ : σ) (here : Source) : Prop :=
  here.tokens <:+ src.tokens

end TitleSieve.Pattern
