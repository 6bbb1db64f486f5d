import TitleSieve.Variants.LazyConverter

/-!
Loading a lazy converter. Loading takes both conversions or changes nothing, so it is done at most
once, and what becomes of a text does not depend on what was submitted before it. Submitting texts
loads the converter if there are any, and only where the library has both conversions.
-/

namespace TitleSieve

def ScriptLibrary.hasBoth (library : ScriptLibrary) (choice : ScriptChoice) : Bool :=
  (library.conversion? choice.nameA).isSome && (library.conversion? choice.nameB).isSome

namespace LazyConverter

variable {lazily : LazyConverter} {library : ScriptLibrary} {choice : ScriptChoice}

/-- Both conversions have been taken or neither. -/
def Whole (lazily : LazyConverter) : Prop :=
  lazily.conversionA.isSome = lazily.conversionB.isSome

theorem whole_fresh (library : ScriptLibrary) (choice : ScriptChoice) :
    (fresh library choice).Whole := rfl

theorem load_of_isLoaded (h : lazily.isLoaded = true) : lazily.load = (.ok (), lazily) := by
  simp only [load, h, if_true]

/-- All that loading can do: nothing, for one of two reasons, or taking both conversions. -/
theorem load_cases (lazily : LazyConverter) :
    (lazily.isLoaded = true ∧ lazily.load = (.ok (), lazily)) ∨
      (lazily.isLoaded = false ∧ lazily.library.hasBoth lazily.choice = false ∧
        lazily.load = (.error .unavailable, lazily)) ∨
      (lazily.isLoaded = false ∧ lazily.library.hasBoth lazily.choice = true ∧
        ∃ a b, lazily.load =
          (.ok (), { lazily with conversionA := some a, conversionB := some b })) := by
  cases hloaded : lazily.isLoaded with
  | true => exact .inl ⟨rfl, load_of_isLoaded hloaded⟩
  | false =>
    refine .inr ?_
    unfold load ScriptLibrary.hasBoth
    rw [hloaded]
    cases lazily.library.conversion? lazily.choice.nameA with
    | none => exact .inl ⟨rfl, rfl, rfl⟩
    | some a =>
      cases lazily.library.conversion? lazily.choice.nameB with
      | none => exact .inl ⟨rfl, rfl, rfl⟩
      | some b => exact .inr ⟨rfl, rfl, a, b, rfl⟩

theorem Whole.load (h : lazily.Whole) : lazily.load.2.Whole := by
  obtain ⟨-, hload⟩ | ⟨-, -, hload⟩ | ⟨-, -, a, b, hload⟩ := lazily.load_cases
  · rwa [hload]
  · rwa [hload]
  · rw [hload]
    rfl

theorem isLoaded_load (lazily : LazyConverter) :
    lazily.load.2.isLoaded = (lazily.isLoaded || lazily.library.hasBoth lazily.choice) := by
  obtain ⟨hloaded, hload⟩ | ⟨hloaded, hboth, hload⟩ | ⟨hloaded, hboth, a, b, hload⟩ :=
    lazily.load_cases
  · rw [hload, hloaded, Bool.true_or]
  · rw [hload, hloaded, hboth, Bool.or_false]
  · rw [hload, hboth, Bool.or_true]
    rfl

/-- A converter that has tried to load does nothing when it is asked to load again. -/
theorem load_load (lazily : LazyConverter) : lazily.load.2.load.2 = lazily.load.2 := by
  obtain ⟨-, hload⟩ | ⟨-, -, hload⟩ | ⟨-, -, a, b, hload⟩ := lazily.load_cases
  · rw [hload, hload]
  · rw [hload, hload]
  · rw [hload, load_of_isLoaded rfl]

theorem converter_load (lazily : LazyConverter) : lazily.load.2.converter = lazily.converter := by
  unfold converter
  rw [load_load]

theorem converter_of_not_hasBoth (h : library.hasBoth choice = false) :
    (fresh library choice).converter = .missing := by
  obtain ⟨hloaded, -⟩ | ⟨-, -, hload⟩ | ⟨-, hboth, -⟩ := (fresh library choice).load_cases
  · cases hloaded
  · unfold converter
    rw [hload]
    rfl
  · exact absurd (hboth.symm.trans h) Bool.noConfusion

theorem after_of_ne_nil {texts : List Text} (h : texts ≠ []) (lazily : LazyConverter) :
    lazily.after texts = lazily.load.2 := by
  rw [after, List.isEmpty_eq_false_iff.mpr h, if_neg Bool.false_ne_true]

theorem after_append (first second : List Text) (lazily : LazyConverter) :
    lazily.after (first ++ second) = (lazily.after first).after second := by
  by_cases hfirst : first = []
  · subst hfirst
    rfl
  · rw [after_of_ne_nil (by simp [hfirst]), after_of_ne_nil hfirst]
    by_cases hsecond : second = []
    · subst hsecond
      rfl
    · rw [after_of_ne_nil hsecond, load_load]

theorem Whole.after (h : lazily.Whole) (texts : List Text) : (lazily.after texts).Whole := by
  unfold LazyConverter.after
  split
  · exact h
  · exact h.load

theorem after_of_isLoaded (h : lazily.isLoaded = true) (texts : List Text) :
    lazily.after texts = lazily := by
  unfold after
  split
  · rfl
  · rw [load_of_isLoaded h]

/-- Submitting texts does not change what becomes of a text. -/
theorem converter_after (texts : List Text) (lazily : LazyConverter) :
    (lazily.after texts).converter = lazily.converter := by
  unfold after
  split
  · rfl
  · exact lazily.converter_load

theorem isLoaded_after_fresh (texts : List Text) :
    ((fresh library choice).after texts).isLoaded = (!texts.isEmpty && library.hasBoth choice) := by
  unfold after
  cases texts.isEmpty with
  | true => rfl
  | false =>
    rw [Bool.not_false, Bool.true_and]
    exact isLoaded_load _

/-- What has been taken stays, whatever is submitted later. -/
theorem Whole.after_keeps (h : lazily.Whole) (texts : List Text) :
    (∀ a, lazily.conversionA = some a → (lazily.after texts).conversionA = some a) ∧
      ∀ b, lazily.conversionB = some b → (lazily.after texts).conversionB = some b := by
  unfold Whole at h
  refine ⟨fun a ha => ?_, fun b hb => ?_⟩
  · have hloaded : lazily.isLoaded = true := by
      rw [isLoaded, ← h, ha]
      rfl
    rw [after_of_isLoaded hloaded, ha]
  · have hloaded : lazily.isLoaded = true := by
      rw [isLoaded, h, hb]
      rfl
    rw [after_of_isLoaded hloaded, hb]

end LazyConverter

end TitleSieve
