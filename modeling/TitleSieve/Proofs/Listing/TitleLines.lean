import TitleSieve.Proofs.Listing.DecidedRows
import TitleSieve.Proofs.Rule.Conjunction
import TitleSieve.Proofs.Text.LineReading

/-!
The titles of a listing as lines. Squeezing leaves no blank in a title but single spaces, and
whatever ends a line is blank, so a title is always one line; a title that is not empty is not blank
either. Among the titles of a page a rule keeps those of the rows that it leaves visible in the
page.
-/

namespace TitleSieve

open Markup Pass

theorem Text.mem_squeeze {c : Char} {t : Text} (h : c ∈ Text.squeeze t) :
    c = ' ' ∨ Text.isBlank c = false := by
  fun_induction Text.squeeze t with
  | case1 => cases h
  | case2 d hblank => exact .inl (List.mem_singleton.mp h)
  | case3 d hblank =>
    obtain rfl := List.mem_singleton.mp h
    exact .inr (by simpa using hblank)
  | case4 d e rest hblank hnext ih => exact ih h
  | case5 d e rest hblank hnext ih =>
    rcases List.mem_cons.mp h with rfl | h
    · exact .inl rfl
    · exact ih h
  | case6 d e rest hblank ih =>
    rcases List.mem_cons.mp h with rfl | h
    · exact .inr (by simpa using hblank)
    · exact ih h

theorem Text.isBlank_of_isLineEnd {c : Char} (h : Text.isLineEnd c = true) :
    Text.isBlank c = true := by
  simp only [Text.isLineEnd, Bool.or_eq_true, Bool.and_eq_true, decide_eq_true_eq,
    beq_iff_eq] at h
  simp only [Text.isBlank, Text.isBlankCode, Bool.or_eq_true, Bool.and_eq_true,
    decide_eq_true_eq, beq_iff_eq]
  omega

theorem Text.isLine_trim_squeeze (t : Text) : Text.IsLine (Text.trim (Text.squeeze t)) := by
  intro c hc
  rw [Bool.eq_false_iff]
  intro hend
  have hblank := Text.isBlank_of_isLineEnd hend
  rcases Text.mem_squeeze (Text.mem_of_mem_trim hc) with rfl | hnot
  · exact absurd hend (by decide)
  · rw [hnot] at hblank
    cases hblank

theorem Text.isAllBlank_trim {t : Text} (h : Text.trim t ≠ []) :
    Text.isAllBlank (Text.trim t) = false := by
  rw [Bool.eq_false_iff]
  intro hblank
  rw [← Text.trim_eq_nil_iff, Text.trim_trim] at hblank
  exact h hblank

namespace Listing

theorem isLine_of_rowTitle? {row : Forest.Element} {title : Text}
    (h : rowTitle? row = some title) : Text.IsLine title := by
  obtain ⟨cell, -, rfl⟩ := Option.map_eq_some_iff.mp h
  exact Text.isLine_trim_squeeze cell.text

theorem not_blank_of_rowTitle? {row : Forest.Element} {title : Text}
    (h : rowTitle? row = some title) (hne : title ≠ []) : Text.isAllBlank title = false := by
  obtain ⟨cell, -, rfl⟩ := Option.map_eq_some_iff.mp h
  exact Text.isAllBlank_trim hne

def titleLines (rows : List Forest.Element) : List Text :=
  (rows.filterMap rowTitle?).filter (!·.isEmpty)

theorem mem_titleLines {rows : List Forest.Element} {title : Text} (h : title ∈ titleLines rows) :
    Text.IsLine title ∧ Text.isAllBlank title = false := by
  obtain ⟨htitle, hne⟩ := List.mem_filter.mp h
  obtain ⟨row, -, hrow⟩ := List.mem_filterMap.mp htitle
  exact ⟨isLine_of_rowTitle? hrow, not_blank_of_rowTitle? hrow (by simpa using hne)⟩

theorem titlesFrom_snd (index : Nat) (rows : List Forest.Element) :
    (titlesFrom index rows).map Prod.snd = rows.filterMap rowTitle? := by
  induction rows generalizing index with
  | nil => rfl
  | cons row rest ih =>
    rw [titlesFrom]
    cases htitle : rowTitle? row with
    | none => rw [List.filterMap_cons_none htitle, ih]
    | some title => rw [List.filterMap_cons_some htitle, List.map_cons, ih]

variable {converter : Converter} {rule : Rule} {before after : List Forest.Element}

theorem filterMap_rowTitle?_eq (h : List.Forall₂ (DecidedBy converter rule) before after) :
    after.filterMap rowTitle? = before.filterMap rowTitle? := by
  induction h with
  | nil => rfl
  | cons hrow _ ih => rw [List.filterMap_cons, List.filterMap_cons, ih, hrow.rowTitle?_eq]

/-- Of the titles of the rows the rule keeps those of the rows that it shows. -/
theorem sift_titleLines (h : List.Forall₂ (DecidedBy converter rule) before after) :
    rule.sift converter (titleLines before) = .ok (titleLines (after.filter isShown)) := by
  induction h with
  | nil => rfl
  | @cons row row' before after hrow _ ih =>
    have htitle' := hrow.rowTitle?_eq
    unfold DecidedBy at hrow
    cases htitle : rowTitle? row with
    | none =>
      have hsame : titleLines ((row' :: after).filter isShown) =
          titleLines (after.filter isShown) := by
        rw [List.filter_cons]
        cases isShown row' with
        | false => rfl
        | true => simp [titleLines, htitle', htitle]
      rw [titleLines, List.filterMap_cons_none htitle, hsame]
      exact ih
    | some title =>
      rw [htitle] at hrow htitle'
      obtain ⟨visible, halone, hshows⟩ := hrow
      rw [List.filter_cons, hshows.isShown_eq]
      by_cases hempty : title = []
      · have hsame : titleLines (row :: before) = titleLines before := by
          simp [titleLines, htitle, hempty]
        rw [hsame, ih]
        cases visible <;> simp [titleLines, htitle', hempty]
      · have hcons : titleLines (row :: before) = title :: titleLines before := by
          simp [titleLines, htitle, hempty]
        rw [hcons, Rule.sift_cons_eq_ok_iff]
        refine ⟨visible, _, halone, ih, ?_⟩
        cases visible <;> simp [titleLines, htitle', hempty]

end Listing

end TitleSieve
