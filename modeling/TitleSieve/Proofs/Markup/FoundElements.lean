import TitleSieve.Proofs.Markup.Steady

/-!
The elements of a page that has been written and read. Writing an element changes no attribute but
those that tell an encoding, so an element that is chosen by its name and its other attributes is
found in the page that has been read where it was found in the page that was written. A change of
the children of a found element keeps a page legible if it keeps the children so.
-/

namespace TitleSieve.Markup

namespace Attributes

variable {element : Text} {attributes : Attributes}

def TellsNone (name : Text) : Prop := name ≠ "charset".toList ∧ name ≠ content

theorem agree_set {matters : Text → Prop} {name : Text} (hname : ¬ matters name)
    (attributes : Attributes) (value : Text) :
    attributes.Agree matters (attributes.set name value) := by
  intro other hother
  have hne : other ≠ name := fun heq => hname (heq ▸ hother)
  rw [get?_set, if_neg hne]

theorem agree_tellEncoding (attributes : Attributes) :
    attributes.Agree TellsNone attributes.tellEncoding := by
  rcases tellEncoding_cases attributes with
    hnone | ⟨value, hcharset⟩ | ⟨value, kind, hcharset, hcontent, hkind, htype⟩
  · rw [hnone]
    exact .refl _
  · rw [tellEncoding_of_charset hcharset]
    exact agree_set (fun h => h.1 rfl) attributes _
  · rw [tellEncoding_of_content hcharset hcontent hkind htype]
    exact agree_set (fun h => h.2 rfl) attributes _

theorem agree_sort {matters : Text → Prop} (h : attributes.Legible element) :
    attributes.Agree matters attributes.sort :=
  fun name _ => agree_of_perm h.distinct attributes.sort_perm.symm name trivial

/-- Writing an element changes no attribute but those that tell an encoding. -/
theorem agree_kept (h : attributes.Legible element) :
    attributes.Agree TellsNone (Builder.keptAttributes element (attributes.told element)) := by
  rw [keptAttributes_eq h.told]
  by_cases hmeta : element = "meta".toList
  · subst hmeta
    rw [told, if_pos rfl]
    exact (agree_tellEncoding attributes).trans (agree_sort h.tellEncoding)
  · rw [told, if_neg hmeta]
    exact agree_sort h

theorem agree_kept_of_ne {matters : Text → Prop} (h : attributes.Legible element)
    (hmeta : element ≠ "meta".toList) :
    attributes.Agree matters (Builder.keptAttributes element (attributes.told element)) := by
  rw [keptAttributes_eq h.told, told, if_neg hmeta]
  exact agree_sort h

end Attributes

namespace Forest

variable {preformatted : Bool} {choice : Choice}

def Element.Reread (first second : Element) : Prop :=
  ∃ owner preformatted, first.children.Legible preformatted ∧
    second.children = first.children.reread owner preformatted []

theorem find?_endRun (owner : Owner) (run : Text) (next : Forest) :
    (endRun owner preformatted run next).find? choice = next.find? choice := by
  unfold endRun
  split <;> rfl

/-- What is chosen without looking at encodings is found again in a page that has been written and
read. -/
theorem find?_reread (hchoice : choice.Respects Attributes.TellsNone) {forest : Forest}
    (h : forest.Legible preformatted) (owner : Owner) (run : Text) :
    Option.Rel Element.Reread (forest.find? choice)
      ((forest.reread owner preformatted run).find? choice) := by
  induction h generalizing owner run with
  | nil =>
    rw [reread, find?_endRun]
    exact .none
  | text _ _ _ ih =>
    rw [reread]
    exact ih owner _
  | insertion _ _ _ ih =>
    rw [reread, find?_endRun]
    exact ih owner _
  | @element preformatted name attributes children next _ hattributes _ hchildren _ ihchildren
      ihnext =>
    have hinside := ihchildren ((ownOwner? name).getD owner) []
    rw [reread, find?_endRun]
    simp only [find?, ← hchoice name _ _ (Attributes.agree_kept hattributes)]
    by_cases hchosen : choice name attributes
    · simp only [hchosen, if_true]
      exact .some ⟨_, _, hchildren, rfl⟩
    · simp only [hchosen, Bool.false_eq_true, if_false]
      generalize children.find? choice = found,
        (children.reread _ _ []).find? choice = found' at hinside
      cases hinside with
      | none => exact ihnext owner []
      | some hfound => exact .some hfound

/-- An element whose children could be changed may have any children that it has then. -/
theorem fits_of_updateFirst? {change : Forest → Option Forest} {name : Text}
    {children kids : Forest} (h : Fits name children)
    (hkids : children.updateFirst? choice change = some kids) : Fits name kids where
  void hvoid := by
    rw [h.void hvoid] at hkids
    cases hkids
  verbatim hverbatim := by
    rcases h.verbatim hverbatim with rfl | ⟨_, _, rfl, -⟩ <;> cases hkids

theorem Legible.updateFirst? {change : Forest → Option Forest} {page changed : Forest}
    (hchange : ∀ {name preformatted children kids}, Fits name children →
      children.Legible preformatted → change children = some kids →
        Fits name kids ∧ kids.Legible preformatted)
    (h : page.Legible preformatted) (hchanged : page.updateFirst? choice change = some changed) :
    changed.Legible preformatted := by
  induction h generalizing changed with
  | nil => cases hchanged
  | text owner hsettled _ ih =>
    obtain ⟨rest, hrest, rfl⟩ := Option.map_eq_some_iff.mp hchanged
    exact .text owner hsettled (ih hrest)
  | insertion hholds hsettled _ ih =>
    obtain ⟨rest, hrest, rfl⟩ := Option.map_eq_some_iff.mp hchanged
    exact .insertion hholds hsettled (ih hrest)
  | @element preformatted name attributes children next hname hattributes hfits hchildren hnext
      ihchildren ihnext =>
    simp only [Forest.updateFirst?] at hchanged
    by_cases hchosen : choice name attributes
    · simp only [hchosen, if_true] at hchanged
      obtain ⟨kids, hkids, rfl⟩ := Option.map_eq_some_iff.mp hchanged
      obtain ⟨hfits', hkids'⟩ := hchange hfits hchildren hkids
      exact .element hname hattributes hfits' hkids' hnext
    · simp only [hchosen, Bool.false_eq_true, if_false] at hchanged
      cases hfind : children.find? choice with
      | some found =>
        simp only [hfind] at hchanged
        obtain ⟨kids, hkids, rfl⟩ := Option.map_eq_some_iff.mp hchanged
        exact .element hname hattributes (fits_of_updateFirst? hfits hkids) (ihchildren hkids) hnext
      | none =>
        simp only [hfind] at hchanged
        obtain ⟨rest, hrest, rfl⟩ := Option.map_eq_some_iff.mp hchanged
        exact .element hname hattributes hfits hchildren (ihnext hrest)

end Forest

end TitleSieve.Markup
