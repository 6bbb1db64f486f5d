import TitleSieve.Proofs.Markup.Legible

/-!
What is built from legible events is legible. A builder is legible when its open elements and the
branches it keeps are; each legible event leaves it so. Verbatim text is the one exception while it
is being read: its element has just been opened, holds one run of text at most, and what has not
been read yet tells whether that run holds an end tag.
-/

namespace TitleSieve.Markup

open Event

theorem collapse_eq (content : Text) :
    Builder.collapse content = content ∨ Builder.collapse content = [' '] ∨
      Builder.collapse content = ['\n'] := by
  unfold Builder.collapse
  split
  · split
    · exact .inr (.inr rfl)
    · exact .inr (.inl rfl)
  · exact .inl rfl

theorem collapse_collapse (content : Text) :
    Builder.collapse (Builder.collapse content) = Builder.collapse content := by
  rcases collapse_eq content with h | h | h <;> rw [h]
  · exact h
  · rfl
  · rfl

theorem settled_runContent (builder : Builder) (content : Text) :
    Settled builder.isPreformatted (builder.runContent content) := by
  intro houtside
  rw [Builder.runContent, houtside]
  exact collapse_collapse content

theorem mem_of_endsComment? {t after : Text} (h : endsComment? t = some after) : '>' ∈ t := by
  unfold endsComment? at h
  split at h
  · next rest =>
    split at h
    · next hrest =>
      have hmem : '>' ∈ rest := (List.dropWhile_suffix _).subset (hrest ▸ List.mem_cons_self)
      exact List.mem_cons_of_mem _ (List.mem_cons_of_mem _ hmem)
    · cases h
  · cases h

theorem mem_of_endsSection? {brackets : Nat} {t after : Text}
    (h : endsSection? brackets t = some after) : '>' ∈ t := by
  induction brackets generalizing t with
  | zero =>
    unfold endsSection? at h
    split at h
    · exact List.mem_cons_self
    · contradiction
    · cases h
  | succ brackets ih =>
    cases t with
    | nil => cases h
    | cons c rest =>
      by_cases hc : c = ']'
      · subst hc
        exact List.mem_cons_of_mem _ ((List.dropWhile_suffix _).subset (ih h))
      · simp [endsSection?, hc] at h

/-- Every insertion ends with an angle bracket. -/
theorem Insertion.holds_of_not_mem {content : Text} (h : '>' ∉ content) (kind : Insertion) :
    kind.Holds content := by
  have hnone {left : Text} (hleft : left <:+ content) {ends : Text → Option Text}
      (hends : ∀ after, ends left = some after → '>' ∈ left) : ends left = none := by
    rw [Option.eq_none_iff_forall_not_mem]
    exact fun after hafter => h (hleft.subset (hends after hafter))
  cases kind with
  | cdata => exact fun left hleft => hnone hleft fun _ => mem_of_endsSection?
  | comment => exact fun left hleft => hnone hleft fun _ => mem_of_endsComment?
  | doctype => exact h
  | declaration => trivial
  | instruction => exact h

theorem Insertion.Holds.runContent {kind : Insertion} {content : Text} (h : kind.Holds content)
    (builder : Builder) : kind.Holds (builder.runContent content) := by
  unfold Builder.runContent
  split
  · exact h
  · rcases collapse_eq content with heq | heq | heq <;> rw [heq]
    · exact h
    · exact holds_of_not_mem (by decide) kind
    · exact holds_of_not_mem (by decide) kind

def Event.Legible : Event → Prop
  | .text _ => True
  | .opening name attributes _ => IsTagName name ∧ attributes.Named
  | .closing _ => True
  | .insertion kind content => kind.Holds content

def Event.OpensNone : Event → Prop
  | .opening name _ selfClosing => selfClosing = true ∨ isVerbatim name = false
  | _ => True

namespace Builder

def isAnyPreformatted (elements : List OpenElement) : Bool :=
  elements.any fun e => isPreformattedName e.name

/-- Open elements that are legible, innermost first; none of them holds verbatim text. -/
inductive OpenLegible : List OpenElement → Prop where
  | nil : OpenLegible []
  | cons {element : OpenElement} {outer : List OpenElement} (hname : IsTagName element.name)
      (hattributes : element.attributes.Legible element.name)
      (hvoid : isVoid element.name = false) (hverbatim : isVerbatim element.name = false)
      (hbefore : ∀ branch ∈ element.before, branch.Legible (isAnyPreformatted outer))
      (houter : OpenLegible outer) : OpenLegible (element :: outer)

structure Legible (builder : Builder) : Prop where
  elements : OpenLegible builder.elements
  branches : ∀ branch ∈ builder.branches, branch.Legible builder.isPreformatted
  closed : ∀ name ∈ builder.closed, isVoid name = true

variable {builder : Builder}

theorem legible_start : start.Legible where
  elements := .nil
  branches := by simp [start]
  closed := by simp [start]

theorem Legible.add (h : builder.Legible) {branch : Branch}
    (hbranch : branch.Legible builder.isPreformatted) : (builder.add branch).Legible where
  elements := h.elements
  branches := List.forall_mem_cons.mpr ⟨hbranch, h.branches⟩
  closed := h.closed

theorem Legible.flush (h : builder.Legible) : builder.flush.Legible := by
  unfold Builder.flush
  split
  · exact h
  · have hended : ({ builder with run := none } : Builder).Legible := ⟨h.1, h.2, h.3⟩
    exact hended.add (.text _ (settled_runContent builder _) .nil)

@[simp] theorem elements_flush (builder : Builder) : builder.flush.elements = builder.elements := by
  unfold Builder.flush
  split <;> rfl

@[simp] theorem closed_flush (builder : Builder) : builder.flush.closed = builder.closed := by
  unfold Builder.flush
  split <;> rfl

@[simp] theorem run_flush (builder : Builder) : builder.flush.run = none := by
  unfold Builder.flush
  split
  · assumption
  · rfl

theorem closeElement_legible {element : OpenElement} {outer : List OpenElement}
    {children : List Branch} (h : OpenLegible (element :: outer))
    (hchildren : ∀ branch ∈ children, branch.Legible (isAnyPreformatted (element :: outer))) :
    ∀ branch ∈ closeElement element children, branch.Legible (isAnyPreformatted outer) := by
  cases h with
  | cons hname hattributes hvoid hverbatim hbefore houter =>
    refine List.forall_mem_cons.mpr ⟨?_, hbefore⟩
    refine .element hname hattributes ⟨?_, ?_⟩ (Forest.legible_ofBranches hchildren) .nil
    · simp [hvoid]
    · simp [hverbatim]

theorem closeUpTo_legible (name : Text) {elements : List OpenElement} {branches : List Branch}
    (h : OpenLegible elements)
    (hbranches : ∀ branch ∈ branches, branch.Legible (isAnyPreformatted elements)) :
    OpenLegible (closeUpTo name elements branches).1 ∧
      ∀ branch ∈ (closeUpTo name elements branches).2,
        branch.Legible (isAnyPreformatted (closeUpTo name elements branches).1) := by
  induction elements generalizing branches with
  | nil => exact ⟨h, hbranches⟩
  | cons element outer ih =>
    have houter : OpenLegible outer := by
      cases h
      assumption
    have hclosed := closeElement_legible h hbranches
    unfold closeUpTo
    dsimp only
    split
    · exact ⟨houter, hclosed⟩
    · exact ih houter hclosed

theorem Legible.close (h : builder.Legible) (name : Text) : (builder.close name).Legible := by
  unfold Builder.close
  split
  · obtain ⟨helements, hbranches⟩ := closeUpTo_legible name h.elements h.branches
    exact ⟨helements, hbranches, h.closed⟩
  · exact h

/-- Closing the element that has just been opened puts it among the branches around it. -/
theorem close_push (builder : Builder) (name : Text) (attributes : Attributes) :
    (builder.push name attributes).close name =
      builder.add (.element name attributes .nil) := by
  simp [Builder.close, Builder.push, closeUpTo, closeElement, Builder.add, Forest.ofBranches]

theorem Legible.openElement (h : builder.Legible) {name : Text} {attributes : Attributes}
    {selfClosing : Bool} (hname : IsTagName name)
    (hattributes : attributes.Named)
    (hopens : selfClosing = true ∨ isVerbatim name = false) :
    (builder.openElement name attributes selfClosing).Legible := by
  have hkept := legible_keptAttributes name hattributes
  have hleaf : ((builder.flush.push name (keptAttributes name attributes)).close name).Legible := by
    rw [close_push]
    exact h.flush.add (.element hname hkept ⟨fun _ => rfl, fun _ => .inl rfl⟩ .nil .nil)
  unfold Builder.openElement
  dsimp only
  split
  · exact hleaf
  · next hself =>
    have hverbatim : isVerbatim name = false := by
      rcases hopens with hself' | hverbatim
      · exact absurd hself' hself
      · exact hverbatim
    split
    · next hvoid =>
      exact ⟨hleaf.1, hleaf.2, List.forall_mem_cons.mpr ⟨hvoid, h.closed⟩⟩
    · next hvoid =>
      have hflush := h.flush
      refine ⟨.cons hname hkept (by simpa using hvoid) hverbatim hflush.branches hflush.elements,
        by simp [Builder.push], hflush.closed⟩

theorem Legible.step_text (h : builder.Legible) (content : Text) :
    (builder.step (.text content)).Legible :=
  ⟨h.1, h.2, h.3⟩

/-- A legible event that opens no verbatim text leaves a legible builder legible. -/
theorem Legible.step (h : builder.Legible) {event : Event} (hevent : event.Legible)
    (hopens : event.OpensNone) : (builder.step event).Legible := by
  cases event with
  | text content => exact h.step_text content
  | opening name attributes selfClosing => exact h.openElement hevent.1 hevent.2 hopens
  | closing name =>
    unfold Builder.step
    dsimp only
    split
    · exact ⟨h.1, h.2, fun n hn => h.closed n (List.mem_of_mem_erase hn)⟩
    · exact h.flush.close name
  | insertion kind content =>
    refine h.flush.add (.insertion (Insertion.Holds.runContent hevent builder) ?_ .nil)
    have hpre : builder.flush.isPreformatted = builder.isPreformatted := by
      rw [isPreformatted, elements_flush, isPreformatted]
    rw [hpre]
    exact settled_runContent builder content

theorem Legible.foldl_step (h : builder.Legible) {events : List Event}
    (hevents : ∀ event ∈ events, event.Legible ∧ event.OpensNone) :
    (events.foldl Builder.step builder).Legible := by
  induction events generalizing builder with
  | nil => exact h
  | cons event rest ih =>
    obtain ⟨⟨hevent, hopens⟩, hrest⟩ := List.forall_mem_cons.mp hevents
    exact ih (h.step hevent hopens) hrest

theorem Legible.finish (h : builder.Legible) : builder.finish.Legible false := by
  have hfold : ∀ (elements : List OpenElement) (branches : List Branch), OpenLegible elements →
      (∀ branch ∈ branches, branch.Legible (isAnyPreformatted elements)) →
        ∀ branch ∈ elements.foldl (fun branches e => closeElement e branches) branches,
          branch.Legible false := by
    intro elements
    induction elements with
    | nil => exact fun _ _ hbranches => hbranches
    | cons element outer ih =>
      intro branches helements hbranches
      have houter : OpenLegible outer := by
        cases helements
        assumption
      exact ih _ houter (closeElement_legible helements hbranches)
  exact Forest.legible_ofBranches (hfold _ _ h.flush.elements h.flush.branches)

end Builder

end TitleSieve.Markup
