import TitleSieve.Proofs.Markup.WrittenMarks

/-!
A page that has been written is read as the page it has become. What is written for each node is
read as the events of the node, with the text of what follows left over, so a whole page is read as
its events, and of these the builder makes the page.
-/

namespace TitleSieve.Markup

open Event

namespace Attributes

theorem insert_perm (added : Text × Text) (attributes : Attributes) :
    (insert added attributes).Perm (added :: attributes) := by
  induction attributes with
  | nil => exact .refl _
  | cons first rest ih =>
    unfold insert
    split
    · exact (ih.cons first).trans (.swap added first rest)
    · exact .refl _

theorem sort_perm (attributes : Attributes) : attributes.sort.Perm attributes := by
  induction attributes with
  | nil => exact .refl _
  | cons first rest ih => exact (insert_perm first (sort rest)).trans (ih.cons first)

variable {element : Text} {attributes : Attributes}

theorem Legible.sort (h : attributes.Legible element) : attributes.sort.Legible element :=
  h.of_subset ((attributes.sort_perm.map Prod.fst).nodup_iff.mpr h.distinct)
    fun _ hentry => attributes.sort_perm.mem_iff.mp hentry

theorem mem_of_get? {name value : Text} (h : attributes.get? name = some value) :
    (name, value) ∈ attributes := by
  obtain ⟨before, after, rfl, -⟩ := List.lookup_eq_some_iff.mp h
  exact List.mem_append_right _ List.mem_cons_self

/-- Telling the encoding changes no name. -/
theorem Legible.tellEncoding (h : attributes.Legible "meta".toList) :
    attributes.tellEncoding.Legible "meta".toList := by
  have hlists : Builder.listsWords "meta".toList "charset".toList = false ∧
      Builder.listsWords "meta".toList content = false := by decide
  have hset {name value old : Text} (hold : attributes.get? name = some old)
      (hlists : Builder.listsWords "meta".toList name = false) :
      (attributes.set name value).Legible "meta".toList :=
    h.set (h.names _ (mem_of_get? hold)) fun hlisted => by rw [hlists] at hlisted; cases hlisted
  unfold Attributes.tellEncoding
  dsimp only
  split
  · exact hset ‹_› hlists.1
  · split
    · exact hset ‹_› hlists.2
    · exact h
  · exact h

theorem Legible.told (h : attributes.Legible element) :
    (attributes.told element).Legible element := by
  unfold Attributes.told
  split
  · next hmeta =>
    subst hmeta
    exact h.tellEncoding.sort
  · exact h.sort

end Attributes

theorem writtenAttributes_eq (name : Text) (attributes : Attributes) :
    writtenAttributes name attributes = (attributes.told name).flatMap writeAttribute := by
  unfold writtenAttributes Attributes.told
  split <;> rfl

theorem startTag_eq (name : Text) (attributes : Attributes) (selfClosing : Bool) (left : Text) :
    '<' :: (name ++ writtenAttributes name attributes) ++ (tagMark selfClosing ++ left) =
      '<' :: name ++ ((attributes.told name).flatMap writeAttribute ++
        (tagMark selfClosing ++ left)) := by
  rw [writtenAttributes_eq, List.cons_append, List.append_assoc, List.cons_append]

namespace Forest

/-- Nothing in the page comes to an end too early once it is written: no declaration holds an angle
bracket, and every element is closed by its own end tag. -/
def rewritable : Forest → Bool
  | .nil => true
  | .leaf kind content next =>
    !(kind == .insertion .declaration && content.contains '>') && next.rewritable
  | .element name _ children next =>
    endTagTells name && children.rewritable && next.rewritable

/-- Verbatim text that has been written, with the end tag of its element. -/
theorem readOnto_verbatimChildren {name : Text} {children : Forest} (hname : IsTagName name)
    (hverbatim : isVerbatim name = true) (hfits : Fits name children) (builder : Builder)
    (left : Text) :
    readOnto builder (some name)
        (children.writeIn true ++ ('<' :: '/' :: name ++ '>' :: left)) =
      readOnto ((children.events.foldl Builder.step builder).step (.closing name)) none left := by
  rcases hfits.verbatim hverbatim with rfl | ⟨owner, content, rfl, hends⟩
  · have hempty : EndsNowhere name [] := by
      intro tag rest hsuffix hends
      rw [List.suffix_nil.mp hsuffix] at hends
      cases hends
    exact readOnto_verbatim builder hname hverbatim hempty left
  · have hevents : events (.leaf (.text owner) content .nil) = textEvents content :=
      List.append_nil _
    have hwritten : writeIn true (.leaf (.text owner) content .nil) = content :=
      List.append_nil _
    rw [hwritten, hevents]
    exact readOnto_verbatim builder hname hverbatim hends left

/-- What has been written of a page is read as the events of the page. -/
theorem readOnto_writeIn {preformatted : Bool} {forest : Forest} (h : forest.Legible preformatted)
    (hrewritable : forest.rewritable = true) (builder : Builder) (left : Text) :
    readOnto builder none (forest.writeIn false ++ left) =
      readOnto (forest.events.foldl Builder.step builder) none left := by
  induction h generalizing builder left with
  | nil => rfl
  | text owner _ _ ih =>
    have hnext := ih (by simpa [rewritable] using hrewritable)
    rw [writeIn, if_neg Bool.false_ne_true, List.append_assoc, readOnto_escape, hnext, events,
      List.foldl_append]
  | @insertion _ kind content next hholds _ _ ih =>
    obtain ⟨hdeclaration, hnext⟩ : (kind = .declaration → '>' ∉ content) ∧
        next.rewritable = true := by
      simpa [rewritable, imp_iff_not_or] using hrewritable
    rw [writeIn, List.append_assoc, readOnto_insertion builder hholds hdeclaration, ih hnext,
      events, List.foldl_append]
  | @element _ name attributes children next hname hattributes hfits hchildren _ ihchildren
      ihnext =>
    obtain ⟨⟨htells, hinside⟩, hnext⟩ : (endTagTells name = true ∧ children.rewritable = true) ∧
        next.rewritable = true := by simpa [rewritable, and_assoc] using hrewritable
    have hnamed : (attributes.told name).Named := hattributes.told.names
    rw [writeIn, events, List.append_assoc, List.foldl_append, ← ihnext hnext]
    generalize next.writeIn false ++ left = left
    split
    · next hleaf =>
      have htag := readOnto_startTag builder hname hnamed true left
      rw [← startTag_eq] at htag
      rw [List.append_assoc]
      exact htag
    · next hleaf =>
      have htag := readOnto_startTag builder hname hnamed false
        (children.writeIn (isVerbatim name) ++ ('<' :: '/' :: name ++ '>' :: left))
      have hwritten : '<' :: (name ++ writtenAttributes name attributes) ++
          '>' :: children.writeIn (isVerbatim name) ++ '<' :: '/' :: name ++ ['>'] ++ left =
            '<' :: (name ++ writtenAttributes name attributes) ++ (tagMark false ++
              (children.writeIn (isVerbatim name) ++ ('<' :: '/' :: name ++ '>' :: left))) := by
        simp [tagMark]
      rw [← startTag_eq] at htag
      rw [hwritten, htag, List.foldl_append, List.foldl_cons]
      cases hverbatim : isVerbatim name with
      | true => exact readOnto_verbatimChildren hname hverbatim hfits _ left
      | false =>
        exact (ihchildren hinside _ _).trans (readOnto_endTag _ hname htells left)

/-- A page that has been written is read as the page it has become. -/
theorem read_written {page : Forest} (h : page.Legible false)
    (hrewritable : page.rewritable = true) :
    Forest.read page.write = .ok (page.reread .page false []) := by
  have honto := readOnto_writeIn h hrewritable .start []
  rw [List.append_nil, readOnto_nil, readOnto] at honto
  cases hfirst : readOnce false none (page.writeIn false) with
  | error fault =>
    rw [hfirst] at honto
    cases honto
  | ok first =>
    rw [hfirst] at honto
    simp only [Except.map, Except.ok.injEq, Prod.mk.injEq] at honto
    obtain ⟨hbuilt, hopened, hleft⟩ := honto
    -- nothing is left for a second reading
    have hall : readAll page.write = .ok first.reading.events.reverse := by
      rw [readAll, write, hfirst]
      simp only [hopened, hleft]
      exact congrArg Except.ok (by simp [remainder])
    rw [Forest.read, hall, ← ofEvents_events h, ← hbuilt]
    rfl

end Forest

end TitleSieve.Markup
