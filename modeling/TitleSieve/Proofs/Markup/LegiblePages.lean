import TitleSieve.Proofs.Markup.LegibleReading
import TitleSieve.Proofs.Markup.Readings

/-!
A reading that has come some way has built something legible, and so has one that stops. In verbatim
text it must be kept in mind what follows: a place in the run of text counts as the beginning of an
end tag if the tag is completed by what has not been read yet.
-/

namespace TitleSieve.Markup

open Event

/-- No end tag that begins in this verbatim text, before what is left, is one that ends it. -/
def EndsNowhereBefore (name content left : Text) : Prop :=
  ∀ inner, inner <:+ content → inner ≠ [] → ∀ tag after, inner ++ left = tag ++ after →
    endsVerbatim? name (tag ++ after) = some after → plainEndName? (tag.drop 2).dropLast = none

theorem EndsNowhereBefore.endsNowhere {name content left : Text} (hname : name ≠ [])
    (h : EndsNowhereBefore name content left) : EndsNowhere name content := by
  intro tag after hsuffix hends
  have hne : tag ++ after ≠ [] := by
    intro hnil
    rw [hnil, endsVerbatim?_nil] at hends
    cases hends
  refine h (tag ++ after) hsuffix hne tag (after ++ left) (List.append_assoc ..) ?_
  rw [← List.append_assoc]
  exact endsVerbatim?_append hname hends left

theorem endsNowhereBefore_nil (name left : Text) : EndsNowhereBefore name [] left :=
  fun _ hinner hne => absurd (List.suffix_nil.mp hinner) hne

/-- Up to the next end tag the text goes on. -/
theorem EndsNowhereBefore.append_content {name run content mark after : Text}
    (h : EndsNowhereBefore name run (content ++ mark))
    (hcut : cutWhere? (endsVerbatim? name) (content ++ mark) = some (content, after)) :
    EndsNowhereBefore name (run ++ content) mark := by
  obtain ⟨mark', hmark, -, hnone⟩ := cutWhere?_eq_some hcut
  obtain rfl := List.append_cancel_left hmark
  intro inner hinner hne tag left hsplit hends
  rcases suffix_append_cases hinner with hcontent | ⟨before, rfl, hbefore, hnil⟩
  · rw [← hsplit, hnone inner hcontent hne] at hends
    cases hends
  · exact h before hbefore hnil tag left (by rw [← hsplit, List.append_assoc]) hends

/-- An end tag that does not end the text is part of it. -/
theorem EndsNowhereBefore.append_tag {name run inside left : Text}
    (h : EndsNowhereBefore name run ('<' :: inside ++ left)) (hinside : '<' ∉ inside)
    (hends : endsVerbatim? name ('<' :: inside ++ left) = some left)
    (hplain : plainEndName? (('<' :: inside).drop 2).dropLast = none) :
    EndsNowhereBefore name (run ++ '<' :: inside) left := by
  intro inner hinner hne tag after hsplit hafter
  rcases suffix_append_cases hinner with htag | ⟨before, rfl, hbefore, hnil⟩
  · rcases List.suffix_cons_iff.mp htag with rfl | hinner
    · -- the tag itself
      rw [← hsplit, hends] at hafter
      obtain rfl := Option.some.inj hafter
      rw [← List.append_cancel_right hsplit]
      exact hplain
    · obtain ⟨c, rest, rfl⟩ := List.exists_cons_of_ne_nil hne
      have hc : c ≠ '<' := by
        rintro rfl
        exact hinside (hinner.subset List.mem_cons_self)
      obtain ⟨rest', left', hopens, -, -⟩ := endsVerbatim?_eq_some_iff.mp hafter
      rw [← hsplit, List.cons_append, List.cons.injEq] at hopens
      exact absurd hopens.1 hc
  · exact h before hbefore hnil tag after (by rw [← hsplit, List.append_assoc]) hafter

/-- What a builder that has taken the events of a reading has built, ahead of what is left. In the
verbatim text of an element, that element has just been opened. -/
inductive Builder.Reads (left : Text) : Option Text → Builder → Prop where
  | plain {builder : Builder} (h : builder.Legible) : Reads left none builder
  | verbatim {builder : Builder} {name : Text} {attributes : Attributes} {run : Option Text}
      (h : builder.Legible) (hrun : builder.run = none) (hname : IsTagName name)
      (hverbatim : isVerbatim name = true) (hattributes : attributes.Legible name)
      (hcontent : EndsNowhereBefore name (run.getD []) left) :
      Reads left (some name) { builder.push name attributes with run := run }

theorem EndsNowhere.runContent {name content : Text} (h : EndsNowhere name content)
    (builder : Builder) : EndsNowhere name (builder.runContent content) := by
  have hblank {blank : Text} (hbracket : '<' ∉ blank) : EndsNowhere name blank := by
    intro tag after hsuffix hends
    obtain ⟨rest, left, hopens, -, -⟩ := endsVerbatim?_eq_some_iff.mp hends
    exact absurd (hsuffix.subset (hopens ▸ List.mem_cons_self)) hbracket
  unfold Builder.runContent
  split
  · exact h
  · rcases collapse_eq content with heq | heq | heq <;> rw [heq]
    · exact h
    · exact hblank (by decide)
    · exact hblank (by decide)

theorem isVoid_of_isVerbatim {name : Text} (h : isVerbatim name = true) :
    Builder.isVoid name = false := by
  have hall : ∀ name ∈ verbatimNames, Builder.isVoid name = false := by decide
  exact hall name (by simpa [isVerbatim] using h)

namespace Builder

def runForest (builder : Builder) : Forest :=
  match builder.run with
  | none => .nil
  | some content => .leaf (.text builder.owner) (builder.runContent content) .nil

variable {builder : Builder} {name : Text} {attributes : Attributes} {run : Option Text}

/-- Closing the element of verbatim text puts it among the branches around it. -/
theorem close_flush_push (hrun : builder.run = none) :
    ({ builder.push name attributes with run := run } : Builder).flush.close name =
      builder.add (.element name attributes
        ({ builder.push name attributes with run := run } : Builder).runForest) := by
  cases builder
  cases hrun
  cases run <;> simp [flush, push, close, closeUpTo, closeElement, add, runForest,
    Forest.ofBranches, Forest.grow, owner, runContent, isPreformatted]

theorem finish_push (hrun : builder.run = none) :
    ({ builder.push name attributes with run := run } : Builder).finish =
      (builder.add (.element name attributes
        ({ builder.push name attributes with run := run } : Builder).runForest)).finish := by
  cases builder
  cases hrun
  cases run <;> rfl

namespace Reads

variable {left : Text}

/-- The element of verbatim text, with what has been read of it, is legible. -/
theorem legible_add (h : builder.Legible) (hname : IsTagName name)
    (hverbatim : isVerbatim name = true) (hattributes : attributes.Legible name)
    (hcontent : EndsNowhere name (run.getD [])) :
    (builder.add (.element name attributes
      ({ builder.push name attributes with run := run } : Builder).runForest)).Legible := by
  have hvoid : isVoid name = false := isVoid_of_isVerbatim hverbatim
  refine h.add (.element hname hattributes ⟨fun h => ?_, fun _ => ?_⟩ ?_ .nil)
  · rw [hvoid] at h
    cases h
  · cases run with
    | none => exact .inl rfl
    | some content => exact .inr ⟨_, _, rfl, hcontent.runContent _⟩
  · cases run with
    | none => exact .nil
    | some content =>
      exact .text _ (settled_runContent { builder.push name attributes with run := some content }
        content) .nil

theorem finish {opened : Option Text} (h : Reads left opened builder) :
    builder.finish.Legible false := by
  cases h with
  | plain h => exact h.finish
  | verbatim h hrun hname hverbatim hattributes hcontent =>
    rw [finish_push hrun]
    have hnonempty := (avoidsBracket_of_isVerbatim hverbatim).1
    exact (legible_add h hname hverbatim hattributes (hcontent.endsNowhere hnonempty)).finish

theorem legible (h : Reads left none builder) : builder.Legible := by
  cases h
  assumption

/-- A start tag that opens verbatim text. -/
theorem opening (h : builder.Legible) (hname : IsTagName name)
    (hverbatim : isVerbatim name = true) (hattributes : attributes.Named) :
    Reads left (some name) (builder.step (.opening name attributes false)) := by
  have hvoid : isVoid name = false := isVoid_of_isVerbatim hverbatim
  have hopened : builder.step (.opening name attributes false) =
      { builder.flush.push name (keptAttributes name attributes) with run := none } := by
    have hrun : (builder.flush.push name (keptAttributes name attributes)).run = none :=
      run_flush builder
    rw [← hrun]
    simp [Builder.step, openElement, hvoid]
  rw [hopened]
  exact .verbatim h.flush (run_flush builder) hname hverbatim
    (legible_keptAttributes name hattributes) (endsNowhereBefore_nil name left)

/-- Verbatim text goes on with a stretch in which nothing ends it. -/
theorem addText {left' added : Text} (h : Reads left (some name) builder)
    (hadded : ∀ run, EndsNowhereBefore name run left →
      EndsNowhereBefore name (run ++ added) left') :
    Reads left' (some name) ((textEvents added).foldl Builder.step builder) := by
  cases h with
  | @verbatim builder _ attributes run h hrun hname hverbatim hattributes hcontent =>
    have hmore := hadded _ hcontent
    by_cases hempty : added = []
    · subst hempty
      rw [List.append_nil] at hmore
      exact .verbatim h hrun hname hverbatim hattributes hmore
    · simp only [textEvents, if_neg hempty, List.foldl_cons, List.foldl_nil]
      exact .verbatim h hrun hname hverbatim hattributes hmore

/-- The end tag of verbatim text, where none that begins in it ends it. -/
theorem closing (h : Reads left (some name) builder) :
    (builder.step (.closing name)).Legible := by
  cases h with
  | @verbatim builder _ attributes run h hrun hname hverbatim hattributes hcontent =>
    have hvoid : isVoid name = false := isVoid_of_isVerbatim hverbatim
    have hopen : builder.closed.contains name = false := by
      rw [Bool.eq_false_iff]
      intro hclosed
      rw [h.closed name (List.contains_iff_mem.mp hclosed)] at hvoid
      cases hvoid
    have hnonempty := (avoidsBracket_of_isVerbatim hverbatim).1
    have hstep : ({ builder.push name attributes with run := run } : Builder).step
        (.closing name) =
          ({ builder.push name attributes with run := run } : Builder).flush.close name :=
      if_neg (by simpa [push] using hopen)
    rw [hstep, close_flush_push hrun]
    exact legible_add h hname hverbatim hattributes (hcontent.endsNowhere hnonempty)

end Reads

end Builder

namespace Event

open Builder

theorem drop_of_eq_append {head : Char} {rest used left : Text} (h : head :: rest = used ++ left)
    (hused : used ≠ []) : rest.drop (rest.length - left.length) = left := by
  obtain ⟨first, more, rfl⟩ := List.exists_cons_of_ne_nil hused
  rw [List.cons_append, List.cons.injEq] at h
  rw [h.2, List.length_append, Nat.add_sub_cancel, List.drop_left]

/-- Within verbatim text a reading goes on with what has not been read, or ends the text. -/
theorem reads_of_more_verbatim {reading reading' : Reading} {builder : Builder} {name : Text}
    {head : Char} {rest left : Text} (hopened : reading.verbatim = some name)
    (h : Reads (head :: rest) (some name) (reading.built builder))
    (hstep : stepVerbatim reading name (head :: rest) = .more reading' left) :
    Reads (rest.drop (rest.length - left.length)) reading'.verbatim (reading'.built builder) := by
  have hbracket : AvoidsBracket name := by
    generalize reading.built builder = built at h
    cases h
    exact avoidsBracket_of_isVerbatim ‹_›
  cases hcut : cutWhere? (endsVerbatim? name) (head :: rest) with
  | none =>
    rw [stepVerbatim, hcut] at hstep
    cases hstep
  | some cut =>
    obtain ⟨content, after⟩ := cut
    obtain ⟨mark, hsplit, hends, -⟩ := cutWhere?_eq_some hcut
    obtain ⟨inside, rfl, hinside⟩ := exists_tag_of_endsVerbatim? hbracket hends
    rw [hsplit] at hcut h hstep
    have hcontent := h.addText fun _ hrun => hrun.append_content hcut
    rw [stepVerbatim_of_cut reading hcut] at hstep
    split at hstep
    · cases hstep
      have hclosing := hcontent.closing
      rw [← Reading.built_addText] at hclosing
      rw [Reading.built_cons]
      exact .plain hclosing
    · next hplain =>
      cases hstep
      have hnone : plainEndName? (('<' :: inside).drop 2).dropLast = none := by simpa using hplain
      have hmore := hcontent.addText fun _ hrun => hrun.append_tag hinside hends hnone
      have hused : content ++ '<' :: inside ≠ [] := by simp
      rw [drop_of_eq_append (hsplit.trans (List.append_assoc ..).symm) hused]
      rw [← Reading.built_addText] at hmore
      change Reads left (reading.addText content).verbatim _
      rw [Reading.verbatim_addText, hopened, Reading.add, Reading.built_cons]
      exact hmore

section

variable {final : Bool} {reading reading' : Reading} {builder : Builder} {t left : Text}

/-- Legible events that open no verbatim text. -/
theorem reads_foldl_add (hplain : reading.verbatim = none) (h : (reading.built builder).Legible)
    {events : List Event} (hevents : ∀ event ∈ events, event.Legible ∧ event.OpensNone)
    (left : Text) :
    Reads left (events.foldl Reading.add reading).verbatim
      ((events.foldl Reading.add reading).built builder) := by
  rw [Reading.verbatim_foldl_add, Reading.built_foldl_add, hplain]
  exact .plain (h.foldl_step hevents)

theorem reads_add_text (hplain : reading.verbatim = none) (h : (reading.built builder).Legible)
    (content left : Text) :
    Reads left (reading.add (.text content)).verbatim
      ((reading.add (.text content)).built builder) := by
  rw [Reading.add, Reading.built_cons, hplain]
  exact .plain (h.step_text content)

theorem reads_addText (hplain : reading.verbatim = none) (h : (reading.built builder).Legible)
    (content left : Text) :
    Reads left (reading.addText content).verbatim ((reading.addText content).built builder) := by
  unfold Reading.addText
  split
  · rw [hplain]
    exact .plain h
  · exact reads_add_text hplain h content left

theorem reads_of_more_construct (hplain : reading.verbatim = none)
    (h : (reading.built builder).Legible)
    (hstep : stepConstruct final reading t = .ok (.more reading' left)) (left' : Text) :
    Reads left' reading'.verbatim (reading'.built builder) := by
  unfold stepConstruct at hstep
  split at hstep
  · cases hstep
  · next hread =>
    cases hstep
    exact reads_foldl_add hplain h (legible_readConstruct hread) left'
  · next hread =>
    cases hstep
    obtain ⟨hverbatim, attributes, rfl, hname, hnamed⟩ := legible_readConstruct hread
    rw [Reading.built_cons]
    exact Reads.opening h hname hverbatim hnamed
  · split at hstep
    · cases hstep
      exact reads_add_text hplain h _ left'
    · cases hstep

theorem reads_of_more_reference (hplain : reading.verbatim = none)
    (h : (reading.built builder).Legible)
    (hstep : stepReference final reading t = .ok (.more reading' left)) (left' : Text) :
    Reads left' reading'.verbatim (reading'.built builder) := by
  unfold stepReference at hstep
  split at hstep
  · cases hstep
  · cases hstep
    exact reads_addText hplain h _ left'
  · cases hstep

/-- Outside verbatim text a step leaves what has been built legible, or opens verbatim text. -/
theorem reads_of_more (hplain : reading.verbatim = none) (h : (reading.built builder).Legible)
    (hstep : step final reading t = .ok (.more reading' left)) (left' : Text) :
    Reads left' reading'.verbatim (reading'.built builder) := by
  unfold step at hstep
  split at hstep
  · next name heq =>
    rw [hplain] at heq
    cases heq
  · exact reads_of_more_construct hplain h hstep left'
  · exact reads_of_more_reference hplain h hstep left'
  · cases hstep
    exact reads_add_text hplain h _ left'

/-- What holds of a reading that stopped. -/
theorem reads_of_done {head : Char} {rest : Text} {stopped : Stopped}
    (h : Reads (head :: rest) reading.verbatim (reading.built builder))
    (hstep : step final reading (head :: rest) = .ok (.done stopped)) :
    Reads stopped.left stopped.reading.verbatim (stopped.reading.built builder) := by
  cases hopened : reading.verbatim with
  | some name =>
    simp only [step, hopened, stepVerbatim, Except.ok.injEq] at hstep
    split at hstep
    · cases hstep
      exact h
    · split at hstep <;> cases hstep
  | none =>
    rw [hopened] at h
    have hlegible := h.legible
    unfold step at hstep
    split at hstep
    · next name heq =>
      rw [hopened] at heq
      cases heq
    · unfold stepConstruct at hstep
      split at hstep
      · cases hstep
      · cases hstep
      · cases hstep
      · split at hstep
        · cases hstep
        · cases hstep
          rw [hopened]
          exact .plain hlegible
    · unfold stepReference at hstep
      split at hstep
      · cases hstep
      · cases hstep
      · cases hstep
        exact reads_addText hopened hlegible _ _
    · cases hstep

end

theorem reads_readOnce {final : Bool} {opened : Option Text} {t : Text} {stopped : Stopped}
    {builder : Builder} (h : Reads t opened builder)
    (hread : readOnce final opened t = .ok stopped) :
    Reads stopped.left stopped.reading.verbatim (stopped.reading.built builder) := by
  refine scanFrom_induction
    (p := fun reading left => Reads left reading.verbatim (reading.built builder))
    (fun {reading reading' head rest left} hreads hstep => ?_)
    (fun hreads hstep => reads_of_done hreads hstep) (fun hreads hend => ?_) h hread
  · cases hopened : reading.verbatim with
    | some name =>
      rw [hopened] at hreads
      simp only [step, hopened, Except.ok.injEq] at hstep
      exact reads_of_more_verbatim hopened hreads hstep
    | none =>
      rw [hopened] at hreads
      exact reads_of_more hopened hreads.legible hstep _
  · cases hend
    exact hreads

end Event

theorem Forest.legible_of_read {html : Text} {page : Forest} (h : Forest.read html = .ok page) :
    page.Legible false := by
  have hbuilt (first second : Stopped) :
      Forest.ofEvents (first.reading.events.reverse ++ second.reading.events.reverse ++
        remainder second) = ((remainder second).foldl Builder.step
          (second.reading.built (first.reading.built .start))).finish := by
    simp only [Forest.ofEvents, List.foldl_append, Reading.built]
  unfold Forest.read readAll at h
  cases hfirst : readOnce false none html with
  | error fault => simp [hfirst, Except.map] at h
  | ok first =>
    cases hsecond : readOnce true first.reading.verbatim first.left with
    | error fault => simp [hfirst, hsecond, Except.map] at h
    | ok second =>
      have hreads := reads_readOnce (reads_readOnce (.plain Builder.legible_start) hfirst) hsecond
      simp only [hfirst, hsecond, Except.map, hbuilt, Except.ok.injEq] at h
      subst h
      unfold remainder
      split
      · exact hreads.finish
      · next hleft =>
        have hplain : second.reading.verbatim = none := by simp_all
        rw [hplain] at hreads
        exact (hreads.legible.step_text second.left).finish

end TitleSieve.Markup
