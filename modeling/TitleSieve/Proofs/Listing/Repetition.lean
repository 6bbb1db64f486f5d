import TitleSieve.Proofs.Listing.Refiltering
import TitleSieve.Proofs.Markup.FoundElements
import TitleSieve.Proofs.Markup.LegiblePages

/-!
Applying the same decisions to a page that they have been applied to. The page that has been written
is read with the listing in its place and the styles of its rows as they were decided, and to decide
a row again changes nothing; so what is written then is the page that has been read. It is the same
text exactly if the page is steady: that holds for no page in which text stands behind the document
type, since one more line feed is put in front of it each time.
-/

namespace TitleSieve.Listing

open Markup Forest

section

variable {decisions : Decisions}

theorem legible_setDisplay {attributes : Attributes} (h : attributes.Legible "tr".toList)
    (visible : Bool) : (setDisplay attributes visible).Legible "tr".toList := by
  have hname : IsAttributeName styleName :=
    ⟨⟨'s', "tyle".toList, by decide, by decide, by decide, List.all_eq_true.mp (by decide)⟩,
      by decide +kernel⟩
  have hlists : Builder.listsWords "tr".toList styleName = false := by decide
  unfold setDisplay
  split
  · exact h.set hname fun hlisted => by rw [hlists] at hlisted; cases hlisted
  · exact h.erase styleName

theorem legible_decideRow {attributes : Attributes} (h : attributes.Legible "tr".toList)
    (index : Nat) : (decideRow decisions index attributes).Legible "tr".toList := by
  unfold decideRow
  split
  · exact legible_setDisplay h _
  · exact h

theorem legible_decideRows {preformatted : Bool} {content : Forest}
    (h : content.Legible preformatted) (index : Nat) :
    (decideRows decisions index content).Legible preformatted := by
  induction h generalizing index with
  | nil => exact .nil
  | text owner hsettled _ ih => exact .text owner hsettled (ih index)
  | insertion hholds hsettled _ ih => exact .insertion hholds hsettled (ih index)
  | @element _ name attributes _ _ hname hattributes hfits hchildren _ _ ih =>
    unfold decideRows
    by_cases hrow : isRow name attributes = true
    · obtain rfl := beq_iff_eq.mp hrow
      rw [if_pos hrow]
      exact .element hname (legible_decideRow hattributes index) hfits hchildren (ih _)
    · rw [if_neg hrow]
      exact .element hname hattributes hfits hchildren (ih _)

theorem fits_decideRows {name : Text} {content : Forest} (h : Fits name content) (index : Nat) :
    Fits name (decideRows decisions index content) where
  void hvoid := by rw [h.void hvoid, decideRows]
  verbatim hverbatim := by
    rcases h.verbatim hverbatim with rfl | ⟨owner, text, rfl, hends⟩
    · exact .inl rfl
    · exact .inr ⟨owner, text, rfl, hends⟩

theorem legible_decidePage? {preformatted : Bool} {page decided : Forest}
    (h : page.Legible preformatted) (hdecided : decidePage? decisions page = some decided) :
    decided.Legible preformatted := by
  refine h.updateFirst? (fun hfits hchildren hkids => ?_) hdecided
  refine ⟨fits_of_updateFirst? hfits hkids, hchildren.updateFirst? (fun hfits' hinner hrows => ?_)
    hkids⟩
  obtain rfl := Option.some.inj hrows
  exact ⟨fits_decideRows hfits' 0, legible_decideRows hinner 0⟩

theorem decideRow_override_self (decisions : Decisions) :
    decideRow (override decisions decisions) = decideRow decisions := by
  funext index attributes
  simp only [decideRow, lookup_override, Option.or_self]

/-- Rows that have been decided are left as they are by the same decisions. -/
theorem decideRows_again (decisions : Decisions) (content : Forest) :
    (decideRows decisions 0 (decideRows decisions 0 content)).Same
      (decideRows decisions 0 content) := by
  have htwice := decideRows_decideRows decisions decisions content
  rwa [decideRows_eq_rewriteRows (override decisions decisions), decideRow_override_self,
    ← decideRows_eq_rewriteRows] at htwice

theorem decideRows_endRun (owner : Owner) (preformatted : Bool) (run : Text) (index : Nat)
    (next : Forest) :
    decideRows decisions index (endRun owner preformatted run next) =
      endRun owner preformatted run (decideRows decisions index next) := by
  unfold endRun
  split <;> rfl

theorem same_endRun {first second : Forest} (h : first.Same second) (owner : Owner)
    (preformatted : Bool) (run : Text) :
    (endRun owner preformatted run first).Same (endRun owner preformatted run second) := by
  unfold endRun
  split
  · exact h
  · exact .leaf _ _ h

/-- Where decisions leave the rows of a page as they are, they do so when it has been written and
read. -/
theorem decideRows_reread {preformatted : Bool} {content : Forest}
    (h : content.Legible preformatted) {index : Nat}
    (hsame : (decideRows decisions index content).Same content) (owner : Owner) (run : Text) :
    (decideRows decisions index (content.reread owner preformatted run)).Same
      (content.reread owner preformatted run) := by
  induction h generalizing index owner run with
  | nil =>
    rw [reread, decideRows_endRun]
    exact .refl _
  | text _ _ _ ih =>
    cases hsame with
    | leaf _ _ hnext =>
      rw [reread]
      exact ih hnext owner _
  | insertion _ _ _ ih =>
    cases hsame with
    | leaf _ _ hnext =>
      rw [reread, decideRows_endRun]
      exact same_endRun (.leaf _ _ (ih hnext owner _)) owner _ run
  | @element preformatted name attributes children next _ hattributes _ _ _ _ ih =>
    rw [reread, decideRows_endRun]
    refine same_endRun ?_ owner preformatted run
    generalize hkept : Builder.keptAttributes name (attributes.told name) = kept
    by_cases hrow : isRow name attributes = true
    · have hrow' : isRow name kept = true := hrow
      obtain rfl := beq_iff_eq.mp hrow
      have hread : attributes.Agree (fun _ => True) kept :=
        hkept ▸ Attributes.agree_kept_of_ne hattributes (by decide)
      rw [decideRows, if_pos hrow] at hsame
      rw [decideRows, if_pos hrow']
      cases hsame with
      | element _ hagree _ hnext =>
        refine .element _ ?_ (.refl _) (ih hnext owner [])
        exact ((decideRow_agree hread.symm decisions index).trans hagree).trans hread
    · have hrow' : ¬ isRow name kept = true := hrow
      rw [decideRows, if_neg hrow] at hsame
      rw [decideRows, if_neg hrow']
      cases hsame with
      | element _ _ _ hnext => exact .element name (.refl _) (.refl _) (ih hnext owner [])

/-- The listing of a decided page is found where the page has been written and read, and the same
decisions leave it as it is. -/
theorem decidePage?_reread {page decided : Forest} (hpage : page.Legible false)
    (hdecided : decidePage? decisions page = some decided) :
    ∃ content again, body (decided.reread .page false []) = .ok content ∧
      decidePage? decisions (decided.reread .page false []) = some again ∧
      (decided.reread .page false []).Same again := by
  have hlegible := legible_decidePage? hpage hdecided
  obtain ⟨listing, kids, -, hkids, hlisting⟩ := find?_of_updateFirst? hdecided
  obtain ⟨inner, rows, -, hrows, hinner⟩ := find?_of_updateFirst? hkids
  obtain rfl := Option.some.inj hrows
  -- the listing and its body, as they have been read
  obtain ⟨listing', hlisting', owner, preformatted, hkidsLegible, hchildren⟩ :
      ∃ listing', (decided.reread .page false []).find? isListing = some listing' ∧
        Element.Reread { listing with children := kids } listing' := by
    have hfound := find?_reread (respects_isListing ⟨by decide, by decide⟩) hlegible .page []
    rw [hlisting] at hfound
    generalize (decided.reread .page false []).find? isListing = found at hfound
    cases hfound with
    | some hread => exact ⟨_, rfl, hread⟩
  obtain ⟨inner', hinner', owner', preformatted', hrowsLegible, hchildren'⟩ :
      ∃ inner', listing'.children.find? isBody = some inner' ∧
        Element.Reread { inner with children := decideRows decisions 0 inner.children }
          inner' := by
    have hfound := find?_reread (respects_isBody _) hkidsLegible owner []
    rw [hinner, ← hchildren] at hfound
    generalize listing'.children.find? isBody = found at hfound
    cases hfound with
    | some hread => exact ⟨_, rfl, hread⟩
  have hbody : body (decided.reread .page false []) = .ok inner'.children := by
    simp only [body, hlisting', hinner']
  obtain ⟨again, hagain⟩ := exists_decidePage? hbody decisions
  refine ⟨_, again, hbody, hagain, alike_of_find? (fun found kids' hfound hkids' => ?_) hagain⟩
  obtain rfl := Option.some.inj (hlisting'.symm.trans hfound)
  refine alike_of_find? (fun found rows hfound hrows => ?_) hkids'
  obtain rfl := Option.some.inj (hinner'.symm.trans hfound)
  obtain rfl := Option.some.inj hrows
  rw [hchildren']
  exact (decideRows_reread hrowsLegible (decideRows_again decisions inner.children) owner' []).symm

end

/-- Decisions can be applied twice to a page with a listing that can be written and read, and the
second time leaves the text as it is exactly if the page is steady. -/
theorem applyDecisions_again {html : Text} {page content : Forest}
    (hread : Forest.read html = .ok page) (hlisting : body page = .ok content)
    (hrewritable : page.rewritable = true) (decisions : Decisions) :
    ∃ out again, applyDecisions html decisions = .ok out ∧
      applyDecisions out decisions = .ok again ∧ (again = out ↔ page.steady = true) := by
  have hpage := legible_of_read hread
  obtain ⟨decided, hdecided⟩ := exists_decidePage? hlisting decisions
  have halike := alike_decidePage? hdecided
  have hlegible := legible_decidePage? hpage hdecided
  have hreread : Forest.read decided.write = .ok (decided.reread .page false []) :=
    read_written hlegible (halike.rewritable_eq ▸ hrewritable)
  obtain ⟨content', again, hlisting', hagain, hsame⟩ := decidePage?_reread hpage hdecided
  -- the second page differs from the one that has been read in the order of attributes at most
  have hwritten : again.write = (decided.reread .page false []).write :=
    (hsame.writeIn_eq (legible_of_read hreread)
      (legible_decidePage? (legible_of_read hreread) hagain) false).symm
  have hsteady : decided.steady = page.steady := (halike.steadyIn_eq false [] []).symm
  refine ⟨decided.write, again.write, applyDecisions_eq_ok hread hlisting hdecided,
    applyDecisions_eq_ok hreread hlisting' hagain, ?_⟩
  rw [hwritten, write_reread_iff hlegible, hsteady]

/-- A page with a document type on a line of its own and a listing with one row. -/
def typedPage : Forest :=
  .leaf (.insertion .doctype) "html".toList
    (.leaf (.text .page) ['\n']
      (.element "p".toList [("id".toList, "topic_list".toList)]
        (.element "tbody".toList [] (.element "tr".toList [] .nil .nil) .nil) .nil))

def typedHtml : Text := "<!DOCTYPE html>\n<p id=topic_list><tbody><tr></tbody></p>".toList

/-- The row of the page is hidden, and hidden again. -/
theorem applyDecisions_again_typedPage :
    Forest.read typedHtml = .ok typedPage ∧ (∃ content, body typedPage = .ok content) ∧
      typedPage.rewritable = true ∧
      ∃ out again, applyDecisions typedHtml [(['0'], false)] = .ok out ∧
        applyDecisions out [(['0'], false)] = .ok again ∧
        (again = out ↔ typedPage.steady = true) := by
  have hread : Forest.read typedHtml = .ok typedPage := by decide +kernel
  have hlisting : ∃ content, body typedPage = .ok content := ⟨_, rfl⟩
  have hrewritable : typedPage.rewritable = true := by decide +kernel
  obtain ⟨content, hcontent⟩ := hlisting
  exact ⟨hread, ⟨content, hcontent⟩, hrewritable,
    applyDecisions_again hread hcontent hrewritable [(['0'], false)]⟩

def lineFeedHtml : Text := "<!DOCTYPE html>x<p id=topic_list><tbody></tbody></p>".toList

/-- Text that stands behind a document type moves on by a line whenever the page is written. -/
theorem not_applyDecisions_again_same :
    ¬ ∀ (html : Text) (decisions : Decisions) (out : Text),
      applyDecisions html decisions = .ok out → applyDecisions out decisions = .ok out := by
  intro h
  have hfirst : applyDecisions lineFeedHtml [] =
      .ok "<!DOCTYPE html>\nx<p id=\"topic_list\"><tbody></tbody></p>".toList := by decide +kernel
  have hsecond : applyDecisions "<!DOCTYPE html>\nx<p id=\"topic_list\"><tbody></tbody></p>".toList
      [] = .ok "<!DOCTYPE html>\n\nx<p id=\"topic_list\"><tbody></tbody></p>".toList := by
    decide +kernel
  have hsame := (h lineFeedHtml [] _ hfirst).symm.trans hsecond
  revert hsame
  decide

end TitleSieve.Listing
