import TitleSieve.Proofs.Markup.LegibleBuilding
import TitleSieve.Proofs.Markup.Readings

/-!
What a page is read as once it has been written. The events are those of the page, with these
differences: an element names its attributes in the order in which they are written, a declaration
has become an instruction, and behind a document type stands the line feed that is written there. Of
these events a page is built in which all texts between two marks are one text.
-/

namespace TitleSieve.Markup

open Event

/-- The kind that an insertion has once it has been written and read. -/
def Insertion.kindReread : Insertion → Insertion
  | .declaration => .instruction
  | kind => kind

def Insertion.contentReread (content : Text) : Insertion → Text
  | .declaration => content ++ ['?']
  | _ => content

/-- What is written behind an insertion and read as text. -/
def Insertion.trail : Insertion → Text
  | .doctype => ['\n']
  | _ => []

/-- The attributes of an element as they are written, in this order. -/
def Attributes.told (element : Text) (attributes : Attributes) : Attributes :=
  (if element = "meta".toList then attributes.tellEncoding else attributes).sort

namespace Forest

def events : Forest → List Event
  | .nil => []
  | .leaf (.text _) content next => textEvents content ++ next.events
  | .leaf (.insertion kind) content next =>
    .insertion kind.kindReread (kind.contentReread content) :: textEvents kind.trail ++ next.events
  | .element name attributes children next =>
    (if Builder.isVoid name ∧ children = .nil then [.opening name (attributes.told name) true]
      else .opening name (attributes.told name) false :: children.events ++ [.closing name]) ++
        next.events

def endRun (owner : Owner) (preformatted : Bool) (run : Text) (next : Forest) : Forest :=
  if run = [] then next
  else .leaf (.text owner) (if preformatted then run else Builder.collapse run) next

/-- What a forest is read as once it has been written, behind a run of text that has not ended. -/
def reread (owner : Owner) (preformatted : Bool) (run : Text) : Forest → Forest
  | .nil => endRun owner preformatted run .nil
  | .leaf (.text _) content next => next.reread owner preformatted (run ++ content)
  | .leaf (.insertion kind) content next =>
    let content := kind.contentReread content
    endRun owner preformatted run (.leaf (.insertion kind.kindReread)
      (if preformatted then content else Builder.collapse content)
      (next.reread owner preformatted kind.trail))
  | .element name attributes children next =>
    endRun owner preformatted run
      (.element name (Builder.keptAttributes name (attributes.told name))
        (children.reread ((ownOwner? name).getD owner) (isPreformattedName name || preformatted) [])
        (next.reread owner preformatted []))

/-- The trees of a forest put behind branches that are kept latest first. -/
def behind (branches : List Branch) : Forest → List Branch
  | .nil => branches
  | .leaf kind content next => next.behind (.leaf kind content :: branches)
  | .element name attributes children next =>
    next.behind (.element name attributes children :: branches)

theorem ofBranches_behind (forest : Forest) (branches : List Branch) :
    ofBranches (forest.behind branches) = branches.foldl (fun next b => grow b next) forest := by
  induction forest generalizing branches with
  | nil => rfl
  | leaf kind content next ih => exact ih _
  | element name attributes children next _ ih => exact ih _

theorem behind_endRun (owner : Owner) (preformatted : Bool) (run : Text) (next : Forest)
    (branches : List Branch) :
    (endRun owner preformatted run next).behind branches =
      next.behind ((endRun owner preformatted run .nil).behind branches) := by
  unfold endRun
  split <;> rfl

end Forest

namespace Builder

variable {builder : Builder}

/-- A builder at a place with this owner, in preformatted text or outside, with a run of text that
has not ended. -/
structure StandsAt (builder : Builder) (owner : Owner) (preformatted : Bool) (run : Text) :
    Prop where
  closed : builder.closed = []
  begun : builder.run ≠ some []
  owner : builder.owner = owner
  preformatted : builder.isPreformatted = preformatted
  content : builder.run.getD [] = run

/-- What a builder has become that has taken the events of a written forest: the trees of the forest
stand behind those before it, as soon as the run of text has ended. -/
structure Took (builder taken : Builder) (read : Forest) : Prop where
  elements : taken.elements = builder.elements
  closed : taken.closed = []
  begun : taken.run ≠ some []
  branches : taken.flush.branches = read.behind builder.branches

variable {owner : Owner} {preformatted : Bool} {run : Text}

theorem StandsAt.branches_flush (h : builder.StandsAt owner preformatted run) :
    builder.flush.branches =
      (Forest.endRun owner preformatted run .nil).behind builder.branches := by
  obtain ⟨-, hbegun, rfl, rfl, rfl⟩ := h
  unfold flush
  cases hcontent : builder.run with
  | none => rfl
  | some content =>
    have hne : content ≠ [] := fun hnil => hbegun (hnil ▸ hcontent)
    simp only [Option.getD_some, Forest.endRun, if_neg hne]
    rfl

/-- A run of text goes on. -/
theorem StandsAt.text (h : builder.StandsAt owner preformatted run) (content : Text) :
    ∃ run', (textEvents content).foldl step builder = { builder with run := run' } ∧
      ({ builder with run := run' } : Builder).StandsAt owner preformatted (run ++ content) := by
  obtain ⟨hclosed, hbegun, rfl, rfl, rfl⟩ := h
  by_cases hempty : content = []
  · refine ⟨builder.run, by simp [textEvents, hempty], hclosed, hbegun, rfl, rfl, ?_⟩
    rw [hempty, List.append_nil]
  · refine ⟨some (builder.run.getD [] ++ content), by simp [textEvents, hempty, step], hclosed, ?_,
      rfl, rfl, rfl⟩
    simp [hempty]

/-- Behind a complete tree the place is the same one. -/
theorem StandsAt.add (h : builder.StandsAt owner preformatted run) (branch : Branch) :
    (builder.flush.add branch).StandsAt owner preformatted [] := by
  have helements : (builder.flush.add branch).elements = builder.elements := elements_flush builder
  have hrun : (builder.flush.add branch).run = none := run_flush builder
  refine ⟨(closed_flush builder).trans h.closed, by simp [hrun], ?_, ?_, by rw [hrun]; rfl⟩
  · rw [Builder.owner, helements, ← Builder.owner, h.owner]
  · rw [isPreformatted, helements, ← isPreformatted, h.preformatted]

/-- Inside an element that has just been opened. -/
theorem StandsAt.push (h : builder.StandsAt owner preformatted run) (name : Text)
    (attributes : Attributes) :
    (builder.flush.push name attributes).StandsAt ((ownOwner? name).getD owner)
      (isPreformattedName name || preformatted) [] := by
  have hrun : (builder.flush.push name attributes).run = none := run_flush builder
  refine ⟨(closed_flush builder).trans h.closed, by simp [hrun], ?_, ?_, by rw [hrun]; rfl⟩
  · simp only [Builder.owner, Builder.push, List.findSome?_cons, elements_flush]
    rw [← h.owner]
    cases ownOwner? name <;> rfl
  · rw [← h.preformatted, isPreformatted, isPreformatted, ← elements_flush builder]
    rfl

/-- An element that has been opened and filled stands complete among the branches around it once it
is closed. -/
theorem step_closing (hrun : builder.run = none) (hclosed : builder.closed = []) {taken : Builder}
    {name : Text} {attributes : Attributes} {children : Forest}
    (h : (builder.push name attributes).Took taken children) :
    taken.step (.closing name) = builder.add (.element name attributes children) := by
  have helements : taken.flush.elements = (builder.push name attributes).elements := by
    rw [elements_flush, h.elements]
  have hchildren : taken.flush.branches = children.behind [] := h.branches
  have hstep : taken.step (.closing name) = taken.flush.close name := by
    rw [step, h.closed]
    rfl
  have hclosed' : taken.flush.closed = [] := by rw [closed_flush, h.closed]
  have hfill : Forest.ofBranches (children.behind []) = children :=
    Forest.ofBranches_behind children []
  have hrun' := run_flush taken
  rw [hstep]
  generalize taken.flush = flushed at *
  obtain ⟨elements, branches, run, closed⟩ := flushed
  dsimp only at helements hchildren hclosed' hrun'
  subst helements hchildren hclosed' hrun'
  simp [close, push, closeUpTo, closeElement, hfill, add, hrun, hclosed]

/-- Some more text leads on as if it had been part of the run from the start. -/
theorem Took.of_run {run' : Option Text} {taken : Builder} {read : Forest}
    (h : ({ builder with run := run' } : Builder).Took taken read) : builder.Took taken read :=
  ⟨h.elements, h.closed, h.begun, h.branches⟩

/-- A tree that is complete stands behind the run of text before it. -/
theorem Took.behind_add (hbuilder : builder.StandsAt owner preformatted run) {taken : Builder}
    {branch : Branch} {read : Forest} (h : (builder.flush.add branch).Took taken read) :
    builder.Took taken (Forest.endRun owner preformatted run (Forest.grow branch read)) where
  elements := h.elements.trans (elements_flush builder)
  closed := h.closed
  begun := h.begun
  branches := by
    have hgrow : (Forest.grow branch read).behind builder.flush.branches =
        read.behind (branch :: builder.flush.branches) := by cases branch <;> rfl
    rw [h.branches, Forest.behind_endRun, ← hbuilder.branches_flush, hgrow]
    rfl

/-- A builder that takes the events of a written page builds what the page is read as. -/
theorem took_events {forest : Forest} (h : forest.Legible preformatted)
    (hbuilder : builder.StandsAt owner preformatted run) :
    builder.Took (forest.events.foldl step builder) (forest.reread owner preformatted run) := by
  induction h generalizing builder owner run with
  | nil => exact ⟨rfl, hbuilder.closed, hbuilder.begun, hbuilder.branches_flush⟩
  | @text _ _ content _ _ _ ih =>
    obtain ⟨run', htaken, hbuilder'⟩ := hbuilder.text content
    rw [Forest.events, List.foldl_append, htaken]
    exact (ih hbuilder').of_run
  | @insertion preformatted kind content next _ _ _ ih =>
    have hcontent : builder.runContent (kind.contentReread content) =
        if preformatted then kind.contentReread content
          else collapse (kind.contentReread content) := by
      rw [runContent, hbuilder.preformatted]
    obtain ⟨run', htaken, hbuilder'⟩ := (hbuilder.add (.leaf (.insertion kind.kindReread)
      (builder.runContent (kind.contentReread content)))).text kind.trail
    rw [Forest.events, List.cons_append, List.foldl_cons, List.foldl_append, step, htaken,
      Forest.reread, ← hcontent]
    exact (ih hbuilder').of_run.behind_add hbuilder
  | @element preformatted name attributes children next _ _ hfits _ _ ihchildren ihnext =>
    let kept := keptAttributes name (attributes.told name)
    -- the element stands behind the run, and the rest follows it
    have hrest (filled : Forest) := (ihnext (hbuilder.add (.element name kept filled))).behind_add
      hbuilder
    rw [Forest.events, List.foldl_append]
    by_cases hleaf : isVoid name = true ∧ children = .nil
    · obtain ⟨hvoid, rfl⟩ := hleaf
      have hstep : builder.step (.opening name (attributes.told name) true) =
          builder.flush.add (.element name kept .nil) := close_push builder.flush name kept
      rw [if_pos ⟨hvoid, rfl⟩, List.foldl_cons, List.foldl_nil, hstep]
      exact hrest .nil
    · have hvoid : isVoid name = false := by
        rw [Bool.eq_false_iff]
        exact fun hvoid => hleaf ⟨hvoid, hfits.void hvoid⟩
      have hstep : builder.step (.opening name (attributes.told name) false) =
          builder.flush.push name kept := by
        simp [step, openElement, hvoid, kept]
      have hinside := ihchildren (hbuilder.push name kept)
      rw [if_neg hleaf, List.foldl_append, List.foldl_cons, List.foldl_nil, List.foldl_cons, hstep,
        step_closing (run_flush builder) ((closed_flush builder).trans hbuilder.closed) hinside]
      exact hrest _

end Builder

/-- Of the events of a written page the page is built that it is read as. -/
theorem Forest.ofEvents_events {page : Forest} (h : page.Legible false) :
    (page.events.foldl Builder.step .start).finish = page.reread .page false [] := by
  have hstart : Builder.start.StandsAt .page false [] :=
    ⟨rfl, by simp [Builder.start], rfl, rfl, rfl⟩
  have htook := Builder.took_events h hstart
  unfold Builder.finish
  dsimp only
  rw [Builder.elements_flush, htook.elements, htook.branches]
  exact ofBranches_behind _ []

end TitleSieve.Markup
