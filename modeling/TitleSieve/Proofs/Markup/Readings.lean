import TitleSieve.Markup.Builder

/-!
What a builder has built once it has taken the events of a reading, which are kept latest first.
-/

namespace TitleSieve.Markup.Event

def textEvents (content : Text) : List Event := if content = [] then [] else [.text content]

def Reading.built (reading : Reading) (builder : Builder) : Builder :=
  reading.events.reverse.foldl Builder.step builder

@[simp] theorem Reading.built_cons (opened : Option Text) (event : Event) (events : List Event)
    (builder : Builder) :
    Reading.built ⟨opened, event :: events⟩ builder =
      (Reading.built ⟨opened, events⟩ builder).step event := by
  simp [Reading.built]

@[simp] theorem Reading.built_foldl_add (reading : Reading) (events : List Event)
    (builder : Builder) :
    (events.foldl Reading.add reading).built builder =
      events.foldl Builder.step (reading.built builder) := by
  induction events generalizing reading with
  | nil => rfl
  | cons event rest ih =>
    rw [List.foldl_cons, ih, List.foldl_cons]
    exact congrArg (rest.foldl Builder.step) (built_cons ..)

@[simp] theorem Reading.verbatim_foldl_add (reading : Reading) (events : List Event) :
    (events.foldl Reading.add reading).verbatim = reading.verbatim := by
  induction events generalizing reading with
  | nil => rfl
  | cons event rest ih => exact ih _

theorem Reading.addText_eq (reading : Reading) (content : Text) :
    reading.addText content = (textEvents content).foldl Reading.add reading := by
  cases content <;> rfl

@[simp] theorem Reading.built_addText (reading : Reading) (content : Text) (builder : Builder) :
    (reading.addText content).built builder =
      (textEvents content).foldl Builder.step (reading.built builder) := by
  rw [addText_eq, built_foldl_add]

@[simp] theorem Reading.verbatim_addText (reading : Reading) (content : Text) :
    (reading.addText content).verbatim = reading.verbatim := by
  rw [addText_eq, verbatim_foldl_add]

end TitleSieve.Markup.Event
