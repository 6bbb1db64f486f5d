import TitleSieve.Pass.Basic
import TitleSieve.Proofs.Text.Cuts

/-!
Rules as they are shown to their users. A narrow semicolon is shown as a wide one wherever it
stands, in a pattern too, and there it is a separator like any other. So a text falls into the same
segments as it is shown, is read as the same rule with the same warnings, and a pass by it is the
same pass.
-/

namespace TitleSieve

open Text

namespace Rule

/-- A text is cut at the same places as it is shown. -/
theorem segments_display (raw : Text) : segments (display raw) = segments raw := by
  have hsplit : split isSeparator (display raw) = split isSeparator raw := by
    refine split_map (fun c hc => ?_) (fun c hc => ?_) raw
    · split
      · rfl
      · exact hc
    · have hne : c ≠ ';' := by
        rintro rfl
        cases hc
      rw [if_neg hne]
  rw [segments, hsplit, segments]

theorem read_display (raw : Text) : Rule.read (display raw) = Rule.read raw := by
  rw [Rule.read, segments_display, Rule.read]

theorem not_mem_display (raw : Text) : ';' ∉ display raw := by
  intro h
  obtain ⟨c, -, hc⟩ := List.mem_map.mp h
  split at hc
  · exact absurd hc (by decide)
  · contradiction

theorem display_display (raw : Text) : display (display raw) = display raw := by
  have hnone := not_mem_display raw
  rw [display]
  refine (List.map_congr_left fun c hc => ?_).trans (List.map_id _)
  rw [if_neg (ne_of_mem_of_not_mem hc hnone), id]

end Rule

/-- It makes no difference to a pass whether the rule is given as it was typed or as it is shown. -/
theorem Pass.run_display {H : Type} [HandleKind H] (converter : Converter) (caching : Bool)
    (raw : Text) (candidates : List (Candidate H)) :
    run converter caching (some (Rule.display raw)) candidates =
      run converter caching (some raw) candidates := by
  simp only [run, Rule.readGiven, Option.getD_some, Rule.read_display]

end TitleSieve
