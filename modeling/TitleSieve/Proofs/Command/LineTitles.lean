import TitleSieve.Command.Run
import TitleSieve.Proofs.Listing.Places
import TitleSieve.Proofs.Rule.Conjunction
import TitleSieve.Proofs.Text.LineReading

/-!
The titles of a text are its lines that are not blank. Their handles are numbers of lines, written
in decimal, and no two are equal; so in a pass over them nothing can be wrong but the trial of a
title. The lines that such a pass prints are the titles that the rule keeps.
-/

namespace TitleSieve.Command

open Listing Pass

def titlesIn (raw : Text) : List Text := (Text.lines raw).filter (!Text.isAllBlank ·)

theorem lineTitles_snd (index : Nat) (ls : List Text) :
    (lineTitles index ls).map Prod.snd = ls.filter (!Text.isAllBlank ·) := by
  induction ls generalizing index with
  | nil => rfl
  | cons line rest ih =>
    cases hblank : Text.isAllBlank line <;> simp [lineTitles, hblank, ih]

theorem textTitles_snd (raw : Text) : (textTitles raw).map Prod.snd = titlesIn raw :=
  lineTitles_snd 0 (Text.lines raw)

theorem titlesIn_closeLines_of_forall {titles : List Text}
    (h : ∀ title ∈ titles, Text.IsLine title ∧ Text.isAllBlank title = false) :
    titlesIn (Text.unifyLineFeeds (Text.closeLines titles)) = titles := by
  have hlines : ∀ title ∈ titles, Text.IsLine title := fun title htitle => (h title htitle).1
  rw [Text.unifyLineFeeds_closeLines hlines, titlesIn, Text.lines_closeLines hlines]
  refine List.filter_eq_self.mpr fun title htitle => ?_
  rw [(h title htitle).2, Bool.not_false]

theorem titlesIn_closeLines {raw : Text} {titles : List Text}
    (h : ∀ title ∈ titles, title ∈ titlesIn raw) :
    titlesIn (Text.unifyLineFeeds (Text.closeLines titles)) = titles := by
  apply titlesIn_closeLines_of_forall
  intro title htitle
  obtain ⟨hline, hblank⟩ := List.mem_filter.mp (h title htitle)
  exact ⟨Text.isLine_of_mem_lines hline, by simpa using hblank⟩

def lineTitle? (line : Text) : Option Text := if Text.isAllBlank line then none else some line

theorem lineTitles_eq_placed (index : Nat) (ls : List Text) :
    lineTitles index ls = placed lineTitle? index ls := by
  induction ls generalizing index with
  | nil => rfl
  | cons line rest ih =>
    rw [lineTitles, placed_cons, ih, lineTitle?]
    cases Text.isAllBlank line <;> rfl

theorem distinct_textTitles (raw : Text) : Distinct (textTitles raw) := by
  rw [textTitles, lineTitles_eq_placed]
  exact distinct_placed 0 (Text.lines raw)

variable {converter : Converter} {rule : Rule} {entries : List (Text × Text)} {kept : List Text}

/-- No earlier candidate has the handle of a later one. -/
theorem any_repeats_eq_false (hdistinct : Distinct entries) {place : Nat}
    (hplace : place < entries.length) :
    ((entries.map candidateOf).take place).any
      (HandleKind.repeats ·.handle (candidateOf entries[place]).handle) = false := by
  rw [List.any_eq_false]
  intro candidate hcandidate
  obtain ⟨earlier, hearlier, rfl⟩ := List.mem_take_iff_getElem.mp hcandidate
  have hlt : earlier < place := by omega
  rw [List.getElem_map]
  have hne : entries[earlier].1 ≠ entries[place].1 :=
    List.pairwise_iff_getElem.mp (List.pairwise_map.mp hdistinct) earlier place (by omega) hplace
      hlt
  show ¬ (entries[earlier].1 == entries[place].1) = true
  simpa using hne

/-- With handles that differ, only the trial of a title can go wrong. -/
theorem faultAt?_of_distinct (hdistinct : Distinct entries) {place : Nat}
    (hplace : place < entries.length) :
    faultAt? converter rule (entries.map candidateOf) place =
      match rule.alone converter entries[place].2 with
      | .error fault => some (.evaluation fault)
      | .ok _ => none := by
  have hkind : HandleKind.unhashable? (candidateOf entries[place]).handle = none := rfl
  rw [faultAt?, List.getElem?_map, List.getElem?_eq_getElem hplace, Option.map_some,
    Option.bind_some]
  simp only [faultAfter?, hkind, any_repeats_eq_false hdistinct hplace]
  rfl

theorem faultless_of_distinct (hdistinct : Distinct entries)
    (h : ∀ entry ∈ entries, ∃ visible, rule.alone converter entry.2 = .ok visible) :
    Faultless converter rule (entries.map candidateOf) := by
  intro place
  by_cases hplace : place < entries.length
  · obtain ⟨visible, hvisible⟩ := h entries[place] (List.getElem_mem hplace)
    rw [faultAt?_of_distinct hdistinct hplace, hvisible]
  · exact faultAt?_of_length_le (by simpa using hplace)

/-- What is printed for decided titles is the titles that the rule keeps. -/
theorem sift_of_decides {decisions : List (Decision Handle)}
    (h : List.Forall₂ (Decides converter rule) (entries.map candidateOf) decisions) :
    ∃ kept, rule.sift converter (entries.map Prod.snd) = .ok kept ∧
      printed false entries decisions = Text.closeLines kept := by
  induction entries generalizing decisions with
  | nil => exact ⟨[], rfl, rfl⟩
  | cons entry rest ih =>
    rw [List.map_cons] at h
    obtain ⟨decision, others, hfirst, hrest, rfl⟩ := List.forall₂_cons_left_iff.mp h
    obtain ⟨more, hmore, hprinted⟩ := ih hrest
    refine ⟨_, Rule.sift_cons_eq_ok_iff.mpr ⟨decision.visible, more, hfirst.2, hmore, rfl⟩, ?_⟩
    rw [printed, hprinted]
    cases decision.visible <;> simp [Text.closeLines]

theorem ofRule_entries_eq_ok_iff (hdistinct : Distinct entries) (caching : Bool) (out : Text) :
    (∃ pass, (ofRule converter rule (entries.map candidateOf) (.fresh caching)).1 = .ok pass ∧
      printed false entries pass.decisions = out) ↔
      ∃ kept, rule.sift converter (entries.map Prod.snd) = .ok kept ∧
        out = Text.closeLines kept := by
  constructor
  · rintro ⟨pass, hpass, rfl⟩
    obtain ⟨-, hdecides, -⟩ := (ofRule_eq_ok_iff ..).mp hpass
    exact sift_of_decides hdecides
  · rintro ⟨kept, hkept, rfl⟩
    have hfaultless : Faultless converter rule (entries.map candidateOf) :=
      faultless_of_distinct hdistinct fun entry hentry =>
        Rule.alone_of_sift hkept (List.mem_map_of_mem hentry)
    obtain ⟨pass, hpass⟩ := exists_ofRule_eq_ok hfaultless caching
    obtain ⟨-, hdecides, -⟩ := (ofRule_eq_ok_iff ..).mp hpass
    obtain ⟨others, hothers, hprinted⟩ := sift_of_decides hdecides
    obtain rfl : kept = others := Except.ok.inj (hkept.symm.trans hothers)
    exact ⟨pass, hpass, hprinted⟩

/-- A pass over titles whose handles differ succeeds exactly if the rule can be read and every trial
succeeds, and what is printed then is what the rule keeps. -/
theorem run_entries_eq_ok_iff (hdistinct : Distinct entries) (caching : Bool) (raw out : Text) :
    (∃ pass, (Pass.run converter caching (some raw) (entries.map candidateOf)).1 = .ok pass ∧
      printed false entries pass.decisions = out) ↔
      ∃ rule kept, Rule.read raw = .ok rule ∧
        rule.value.sift converter (entries.map Prod.snd) = .ok kept ∧
        out = Text.closeLines kept := by
  unfold Pass.run
  rw [show Rule.readGiven (some raw) = Rule.read raw from rfl]
  cases Rule.read raw with
  | error excess => simp
  | ok rule =>
    simp only [ofRule_entries_eq_ok_iff hdistinct, Except.ok.injEq, exists_and_left,
      exists_eq_left']

end TitleSieve.Command
