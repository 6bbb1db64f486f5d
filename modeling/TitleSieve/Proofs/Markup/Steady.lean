import TitleSieve.Proofs.Markup.ToldAttributes

/-!
When a page is written in the same way again after it has been written and read. All that can become
different is a text: one that stands behind a document type begins with a line feed then, and texts
that stand side by side are one text. So the page stays exactly if each stretch of text between two
marks is the one that it is read as. What stands in an element with verbatim text is a single text
and never changes.
-/

namespace TitleSieve.Markup

open Event

def reprinted (preformatted : Bool) (run : Text) : Text :=
  if run = [] then [] else if preformatted then run else Builder.collapse run

/-- A stretch of text is read as it is, also with the line feed that stands in front of it. -/
def settles (preformatted : Bool) (lead run : Text) : Bool :=
  reprinted preformatted (lead ++ run) == run

theorem settles_iff {preformatted : Bool} {lead run : Text} :
    settles preformatted lead run = true ↔ reprinted preformatted (lead ++ run) = run :=
  beq_iff_eq

namespace Forest

/-- Each stretch of text is read as it is. The first one has begun with `run`, and in front of it
stands `lead`. -/
def steadyIn (preformatted : Bool) (lead run : Text) : Forest → Bool
  | .nil => settles preformatted lead run
  | .leaf (.text _) content next => next.steadyIn preformatted lead (run ++ content)
  | .leaf (.insertion kind) _ next =>
    settles preformatted lead run && next.steadyIn preformatted kind.trail []
  | .element name _ children next =>
    settles preformatted lead run &&
      children.steadyIn (isPreformattedName name || preformatted) [] [] &&
      next.steadyIn preformatted [] []

/-- No document type stands in preformatted text, behind any other one stand blanks that count as a
line feed, and outside preformatted text no texts that stand side by side are blank altogether. -/
def steady (page : Forest) : Bool := page.steadyIn false [] []

end Forest

theorem unescape_escape (content : Text) : unescape (escape content) = .ok content :=
  unescape_flatMap unescape_escapeChar content

theorem not_mem_escape (content : Text) : '<' ∉ escape content := by
  intro hmem
  obtain ⟨c, -, hc⟩ := List.mem_flatMap.mp hmem
  unfold escapeChar at hc
  split at hc
  · revert hc; decide
  · split at hc
    · revert hc; decide
    · split at hc
      · revert hc; decide
      · next hopen _ => exact hopen (List.mem_singleton.mp hc).symm

/-- Nothing is left, or a mark. -/
def EndsText (left : Text) : Prop := ∀ c ∈ left.head?, c = '<'

theorem endsText_mark (tail : Text) : EndsText ('<' :: tail) :=
  fun _ hc => (Option.some.inj hc).symm

theorem takeWhile_escape (content : Text) {left : Text} (h : EndsText left) :
    (escape content ++ left).takeWhile (· != '<') = escape content := by
  have hcontent : ∀ c ∈ escape content, (c != '<') = true := by
    intro c hc
    simpa using fun heq : c = '<' => not_mem_escape content (heq ▸ hc)
  rw [List.takeWhile_append_of_pos hcontent]
  cases left with
  | nil => exact List.append_nil _
  | cons c rest =>
    obtain rfl := h c rfl
    simp

/-- Texts are told apart by how they are written, up to the next mark. -/
theorem escape_append_eq_iff {first second left left' : Text} (h : EndsText left)
    (h' : EndsText left') :
    escape first ++ left = escape second ++ left' ↔ first = second ∧ left = left' := by
  constructor
  · intro heq
    have hescaped := congrArg (List.takeWhile (· != '<')) heq
    rw [takeWhile_escape first h, takeWhile_escape second h'] at hescaped
    have htexts : first = second := by
      have hread := congrArg unescape hescaped
      rw [unescape_escape, unescape_escape] at hread
      exact Except.ok.inj hread
    exact ⟨htexts, List.append_cancel_left (hescaped ▸ heq)⟩
  · rintro ⟨rfl, rfl⟩
    rfl

namespace Forest

variable {preformatted : Bool}

theorem reprinted_eq_self {content : Text} (h : Settled preformatted content) :
    reprinted preformatted content = content := by
  unfold reprinted
  split
  · next hempty => exact hempty.symm
  · split
    · rfl
    · next hoff => exact h (by simpa using hoff)

theorem writeIn_endRun (verbatim : Bool) (owner : Owner) (run : Text) (next : Forest) :
    (endRun owner preformatted run next).writeIn verbatim =
      (if verbatim then reprinted preformatted run else escape (reprinted preformatted run)) ++
        next.writeIn verbatim := by
  unfold endRun reprinted
  split
  · cases verbatim <;> rfl
  · rw [writeIn]

/-- An insertion that has been written and read is written as before. -/
theorem write_contentReread {kind : Insertion} {content : Text}
    (h : Settled preformatted content) :
    kind.kindReread.write (if preformatted then kind.contentReread content
      else Builder.collapse (kind.contentReread content)) = kind.write content := by
  have hsettled : (if preformatted then content else Builder.collapse content) = content := by
    cases preformatted with
    | true => exact if_pos rfl
    | false => exact (if_neg Bool.false_ne_true).trans (h rfl)
  cases kind with
  | declaration =>
    have hmark : Builder.collapse (content ++ ['?']) = content ++ ['?'] := by
      have hblank : (content ++ ['?']).all Builder.isAsciiBlank = false := by
        rw [List.all_append, Bool.and_eq_false_iff]
        exact .inr rfl
      rw [Builder.collapse, hblank, if_neg Bool.false_ne_true]
    have hends : "?>".toList = '?' :: ">".toList := by decide
    calc Insertion.instruction.write (if preformatted then content ++ ['?']
          else Builder.collapse (content ++ ['?']))
        = "<?".toList ++ (content ++ ['?']) ++ ">".toList := by rw [hmark, ite_self]; rfl
      _ = "<?".toList ++ content ++ '?' :: ">".toList := by
        simp only [List.append_assoc, List.singleton_append]
      _ = "<?".toList ++ content ++ "?>".toList := congrArg _ hends.symm
  | _ => exact congrArg (Insertion.write · _) hsettled

theorem endsText_write (kind : Insertion) (content left : Text) :
    EndsText (kind.write content ++ left) := by
  cases kind <;> exact fun c hc => (Option.some.inj hc).symm

/-- What stands in an element with verbatim text is read as it has been written. -/
theorem writeIn_reread_of_verbatim {name : Text} {children : Forest} (hfits : Fits name children)
    (hverbatim : isVerbatim name = true) (hchildren : children.Legible preformatted)
    (owner : Owner) :
    (children.reread owner preformatted []).writeIn true = children.writeIn true ∧
      children.steadyIn preformatted [] [] = true := by
  rcases hfits.verbatim hverbatim with rfl | ⟨_, content, rfl, -⟩
  · exact ⟨rfl, beq_self_eq_true _⟩
  · cases hchildren with
    | text _ hsettled _ =>
      have hsame : reprinted preformatted content = content := reprinted_eq_self hsettled
      rw [reread, reread, List.nil_append, writeIn_endRun, hsame]
      exact ⟨rfl, beq_iff_eq.mpr hsame⟩

/-- An element with its end tag stays exactly if its children do. -/
theorem writeIn_children_iff {name : Text} {children : Forest} (hfits : Fits name children)
    (hchildren : children.Legible preformatted) (owner : Owner) (left left' : Text)
    (h : ∀ {left left' : Text}, EndsText left → EndsText left' →
      ((children.reread owner preformatted []).writeIn false ++ left =
          children.writeIn false ++ left' ↔
        children.steadyIn preformatted [] [] = true ∧ left = left')) :
    (children.reread owner preformatted []).writeIn (isVerbatim name) ++
          '<' :: '/' :: (name ++ '>' :: left) =
        children.writeIn (isVerbatim name) ++ '<' :: '/' :: (name ++ '>' :: left') ↔
      children.steadyIn preformatted [] [] = true ∧ left = left' := by
  have htag : '<' :: '/' :: (name ++ '>' :: left) = '<' :: '/' :: (name ++ '>' :: left') ↔
      left = left' := by
    simp only [List.cons.injEq, true_and, List.append_cancel_left_eq]
  cases hverbatim : isVerbatim name with
  | true =>
    obtain ⟨hwritten, hsteady⟩ := writeIn_reread_of_verbatim hfits hverbatim hchildren owner
    rw [hwritten, hsteady, List.append_cancel_left_eq, htag, eq_self, true_and]
  | false =>
    rw [h (endsText_mark _) (endsText_mark _), htag]

theorem writeIn_element (name : Text) (attributes : Attributes) (children next : Forest)
    (left : Text) :
    (Forest.element name attributes children next).writeIn false ++ left =
      (Forest.element name attributes children .nil).writeIn false ++
        (next.writeIn false ++ left) := by
  simp only [writeIn, List.append_nil, List.append_assoc]

/-- An element stays behind the text in front of it exactly if that text and its children do. -/
theorem writeIn_element_iff {name : Text} {attributes : Attributes} {children : Forest}
    (hattributes : attributes.Legible name) (hfits : Fits name children)
    (hchildren : children.Legible preformatted) (owner : Owner) (run run' left left' : Text)
    (h : ∀ {left left' : Text}, EndsText left → EndsText left' →
      ((children.reread owner preformatted []).writeIn false ++ left =
          children.writeIn false ++ left' ↔
        children.steadyIn preformatted [] [] = true ∧ left = left')) :
    escape run ++ ((Forest.element name (Builder.keptAttributes name (attributes.told name))
          (children.reread owner preformatted []) .nil).writeIn false ++ left) =
        escape run' ++ ((Forest.element name attributes children .nil).writeIn false ++ left') ↔
      run = run' ∧ children.steadyIn preformatted [] [] = true ∧ left = left' := by
  simp only [writeIn, writtenAttributes_kept hattributes]
  by_cases hleaf : Builder.isVoid name = true ∧ children = .nil
  · obtain ⟨hvoid, rfl⟩ := hleaf
    have hnone : Builder.isVoid name = true ∧ Forest.nil.reread owner preformatted [] = .nil :=
      ⟨hvoid, rfl⟩
    have hsteady : Forest.nil.steadyIn preformatted [] [] = true := beq_self_eq_true _
    rw [if_pos hnone, if_pos ⟨hvoid, rfl⟩]
    simp only [List.append_assoc, List.cons_append, List.nil_append]
    rw [escape_append_eq_iff (endsText_mark _) (endsText_mark _)]
    simp only [List.cons.injEq, true_and, List.append_cancel_left_eq, hsteady]
  · have hsome : ¬ (Builder.isVoid name = true ∧ children.reread owner preformatted [] = .nil) :=
      fun hnil => hleaf ⟨hnil.1, hfits.void hnil.1⟩
    rw [if_neg hsome, if_neg hleaf]
    simp only [List.append_assoc, List.cons_append, List.nil_append]
    rw [escape_append_eq_iff (endsText_mark _) (endsText_mark _)]
    simp only [List.cons.injEq, true_and, List.append_cancel_left_eq,
      writeIn_children_iff hfits hchildren owner _ _ h]

/-- What a forest is read as is written like the forest exactly if the forest is steady. -/
theorem writeIn_reread_iff {forest : Forest} (h : forest.Legible preformatted) (owner : Owner)
    (lead run : Text) {left left' : Text} (hleft : EndsText left) (hleft' : EndsText left') :
    (forest.reread owner preformatted (lead ++ run)).writeIn false ++ left =
        escape run ++ (forest.writeIn false ++ left') ↔
      forest.steadyIn preformatted lead run = true ∧ left = left' := by
  -- a stretch of text is gathered up to its end and compared there
  induction h generalizing owner lead run left left' with
  | nil =>
    rw [reread, writeIn_endRun, if_neg Bool.false_ne_true, writeIn, List.append_nil,
      List.nil_append, escape_append_eq_iff hleft hleft', steadyIn, settles_iff]
  | @text _ _ content next _ _ ih =>
    have hcontent : escape run ++ (escape content ++ next.writeIn false ++ left') =
        escape (run ++ content) ++ (next.writeIn false ++ left') := by
      simp [escape]
    rw [reread, List.append_assoc, writeIn, if_neg Bool.false_ne_true, hcontent,
      steadyIn]
    exact ih owner lead (run ++ content) hleft hleft'
  | @insertion preformatted kind content next _ hsettled _ ih =>
    have hnext := ih owner kind.trail [] hleft hleft'
    rw [List.append_nil] at hnext
    rw [reread, writeIn_endRun, if_neg Bool.false_ne_true, writeIn, write_contentReread hsettled,
      writeIn, List.append_assoc, List.append_assoc, List.append_assoc,
      escape_append_eq_iff (endsText_write _ _ _) (endsText_write _ _ _),
      List.append_cancel_left_eq, steadyIn, Bool.and_eq_true, settles_iff, and_assoc]
    exact and_congr_right fun _ => hnext
  | @element preformatted name attributes children next _ hattributes hfits hchildren _ ihchildren
      ihnext =>
    have helement (run run' left left' : Text) := writeIn_element_iff hattributes hfits hchildren
      ((ownOwner? name).getD owner) run run' left left' fun h h' => ihchildren _ [] [] h h'
    rw [reread, writeIn_endRun, if_neg Bool.false_ne_true, List.append_assoc,
      writeIn_element _ _ _ (next.reread owner preformatted []), writeIn_element _ _ _ next,
      helement, steadyIn, Bool.and_eq_true, Bool.and_eq_true, settles_iff, and_assoc, and_assoc]
    exact and_congr_right fun _ => and_congr_right fun _ => ihnext owner [] [] hleft hleft'

section

variable {matters : Text → Prop} {first second : Forest}

theorem Alike.rewritable_eq (h : first.Alike matters second) :
    first.rewritable = second.rewritable := by
  induction h with
  | nil => rfl
  | leaf kind content _ ih => simp only [rewritable, ih]
  | element name _ _ _ ihchildren ihnext => simp only [rewritable, ihchildren, ihnext]

theorem Alike.steadyIn_eq (h : first.Alike matters second) (preformatted : Bool)
    (lead run : Text) :
    first.steadyIn preformatted lead run = second.steadyIn preformatted lead run := by
  induction h generalizing preformatted lead run with
  | nil => rfl
  | leaf kind content _ ih => cases kind <;> simp only [steadyIn, ih]
  | element name _ _ _ ihchildren ihnext => simp only [steadyIn, ihchildren, ihnext]

theorem Alike.eq_nil_iff (h : first.Alike matters second) : first = .nil ↔ second = .nil := by
  cases h with
  | nil => exact .rfl
  | leaf => simp
  | element => simp

/-- Pages that differ in the order of attributes are written in the same way. -/
theorem Same.writeIn_eq (h : first.Same second) {firstInside secondInside : Bool}
    (hfirst : first.Legible firstInside) (hsecond : second.Legible secondInside)
    (verbatim : Bool) : first.writeIn verbatim = second.writeIn verbatim := by
  induction h generalizing firstInside secondInside verbatim with
  | nil => rfl
  | leaf kind content _ ih =>
    cases hfirst with
    | text _ _ hnext =>
      cases hsecond with
      | text _ _ hnext' => rw [writeIn, writeIn, ih hnext hnext']
    | insertion _ _ hnext =>
      cases hsecond with
      | insertion _ _ hnext' => rw [writeIn, writeIn, ih hnext hnext']
  | element name hagree hchildren _ ihchildren ihnext =>
    cases hfirst with
    | element _ hattributes _ hinside hnext =>
      cases hsecond with
      | element _ hattributes' _ hinside' hnext' =>
        simp only [writeIn, writtenAttributes_congr hattributes hattributes' hagree,
          ihchildren hinside hinside', ihnext hnext hnext', hchildren.eq_nil_iff]

end

/-- A page that has been written and read is written in the same way again exactly if it is
steady. -/
theorem write_reread_iff {page : Forest} (h : page.Legible false) :
    (page.reread .page false []).write = page.write ↔ page.steady = true := by
  have hends : EndsText [] := fun c hc => by cases hc
  have hpage := writeIn_reread_iff h .page [] [] hends hends
  simp only [List.append_nil, and_true] at hpage
  exact hpage

end Forest

end TitleSieve.Markup
