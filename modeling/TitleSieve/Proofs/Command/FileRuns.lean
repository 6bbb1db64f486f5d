import TitleSieve.Proofs.Command.FileWords
import TitleSieve.Proofs.Command.LineRuns

/-!
Runs of the command on a file. Line by line such a run prints the titles that the rule keeps; as a
page the file is printed with the decisions of the pass written back into it.
-/

namespace TitleSieve.Command

open Listing Pass

/-- Every command line that asks for a file with this text to be filtered by the rule, as a page or
line by line, succeeds and prints this, wherever the converter is the one that is given. -/
def PrintsFile (converter : Converter) (raw : Text) (html : Bool) (input output : Text) : Prop :=
  ∀ (world : World) name noVariants steps, world.converterFor noVariants = converter →
    world.Holds name (Text.Utf8.encode input) → FiltersFile raw name html noVariants steps →
      ∃ result, run world (steps.flatMap Step.words) = .ok result ∧
        result.exit = 0 ∧ result.out = output

variable {converter : Converter} {raw input : Text}

/-- The file is decoded, and carriage returns in it count as line feeds. -/
theorem FiltersFile.run_eq {world : World} {name : Text} {html noVariants : Bool}
    {steps : List Step} (hsteps : FiltersFile raw name html noVariants steps) (hraw : IsPlain raw)
    (hholds : world.Holds name (Text.Utf8.encode input)) :
    ∃ options : Options, options.rule = raw ∧ options.showHidden = false ∧
      converterOf world options = world.converterFor noVariants ∧
      run world (steps.flatMap Step.words) =
        if html then filterPage world options (Text.unifyLineFeeds input)
        else filterText world options (Text.unifyLineFeeds input) := by
  refine ⟨⟨raw, some (Text.Utf8.encode input), html, false, noVariants⟩, rfl, rfl, rfl, ?_⟩
  simp only [run, hsteps.optionsOf_eq hraw hholds, Option.getD_some, filter,
    Text.Utf8.decode_encode]

/-- Line by line, what the rule keeps is printed. -/
theorem printsFile_lines (hraw : IsPlain raw) {rule : Warned Rule}
    (hrule : Rule.read raw = .ok rule)
    {kept : List Text}
    (hkept : rule.value.sift converter (titlesIn (Text.unifyLineFeeds input)) = .ok kept) :
    PrintsFile converter raw false input (Text.closeLines kept) := by
  intro world name noVariants steps hconverter hholds hsteps
  obtain ⟨options, hoptions, hhidden, hchosen, hrun⟩ := hsteps.run_eq hraw hholds
  have hdistinct : Distinct (textTitles (Text.unifyLineFeeds input)) := distinct_textTitles _
  rw [hrun, if_neg Bool.false_ne_true]
  unfold filterText
  rw [filterTitles_eq_ok_iff, hchosen, hconverter, hoptions, hhidden]
  refine (run_entries_eq_ok_iff hdistinct true raw _).mpr ⟨rule, kept, hrule, ?_, rfl⟩
  rw [textTitles_snd]
  exact hkept

/-- As a page, the file is printed with the decisions written back. -/
theorem printsFile_page (hraw : IsPlain raw) {entries : List (Text × Text)}
    (htitles : Listing.titles (Text.unifyLineFeeds input) = .ok entries) {pass : Pass Handle}
    (hpass : (Pass.run converter true (some raw) (entries.map candidateOf)).1 = .ok pass)
    {written : Text}
    (hwritten : applyDecisions (Text.unifyLineFeeds input) (decisionsOf pass.decisions) =
      .ok written) :
    PrintsFile converter raw true input (written ++ ['\n']) := by
  intro world name noVariants steps hconverter hholds hsteps
  obtain ⟨options, hoptions, -, hchosen, hrun⟩ := hsteps.run_eq hraw hholds
  rw [hrun, if_pos rfl]
  rw [← hconverter, ← hchosen, ← hoptions] at hpass
  simp only [filterPage, htitles]
  rw [filterTitles_of_ok hpass (by rw [hwritten])]
  exact ⟨_, rfl, rfl, rfl⟩

end TitleSieve.Command
