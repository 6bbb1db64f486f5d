import TitleSieve.Listing.Visibility
import TitleSieve.Proofs.Markup.Alike
import TitleSieve.Proofs.Text.Cuts

/-!
The style of a row that is decided more than once. A style is read as the pieces between its
semicolons, and the pieces that a decision writes are read back as they are. So the declarations
that an earlier decision kept are the ones that a later decision would keep anyway, and what the
earlier one added is taken out again: the later decision alone shows.
-/

namespace TitleSieve.Listing

open Text Markup

theorem isPiece_hiddenDisplay : IsPiece (· == ';') hiddenDisplay := by
  have hall : hiddenDisplay.all (· != ';') = true := by decide
  refine ⟨by decide, by decide, fun c hc => ?_⟩
  simpa using List.all_eq_true.mp hall c hc

theorem isDisplay_hiddenDisplay : isDisplay hiddenDisplay = true := by decide

theorem isPiece_of_mem_kept {style declaration : Text} {visible : Bool}
    (h : declaration ∈ keptDeclarations style visible) : IsPiece (· == ';') declaration := by
  rcases List.mem_append.mp h with hkept | hadded
  · exact isPiece_of_mem_pieces (List.mem_of_mem_filter hkept)
  · cases visible with
    | true => simp at hadded
    | false =>
      obtain rfl := List.mem_singleton.mp hadded
      exact isPiece_hiddenDisplay

/-- What a decision writes is read back as the declarations that it kept. -/
theorem declarations_styleFor? (style : Text) (visible : Bool) :
    declarations ((styleFor? style visible).getD []) = keptDeclarations style visible := by
  have hread : pieces (· == ';') (joinWith [';', ' '] (keptDeclarations style visible)) =
      keptDeclarations style visible :=
    pieces_joinWith (fun _ hc => beq_eq_false_of_isBlank hc (by decide)) (by decide) (by decide) _
      fun _ h => isPiece_of_mem_kept h
  unfold styleFor?
  cases hkept : keptDeclarations style visible with
  | nil => rfl
  | cons first rest =>
    rw [hkept] at hread
    exact hread

/-- A decision keeps the declarations that are not about the display. -/
theorem filter_keptDeclarations (style : Text) (visible : Bool) :
    (keptDeclarations style visible).filter (!isDisplay ·) =
      (declarations style).filter (!isDisplay ·) := by
  cases visible <;> simp [keptDeclarations, isDisplay_hiddenDisplay]

/-- The later of two decisions keeps what it would have kept without the earlier one. -/
theorem keptDeclarations_styleFor? (style : Text) (earlier later : Bool) :
    keptDeclarations ((styleFor? style earlier).getD []) later = keptDeclarations style later := by
  rw [keptDeclarations, declarations_styleFor?, filter_keptDeclarations, keptDeclarations]

theorem styleFor?_styleFor? (style : Text) (earlier later : Bool) :
    styleFor? ((styleFor? style earlier).getD []) later = styleFor? style later := by
  rw [styleFor?, keptDeclarations_styleFor?, styleFor?]

theorem get?_setDisplay (attributes : Attributes) (visible : Bool) (name : Text) :
    (setDisplay attributes visible).get? name =
      if name = styleName then styleFor? ((attributes.get? styleName).getD []) visible
      else attributes.get? name := by
  unfold setDisplay
  cases styleFor? ((attributes.get? styleName).getD []) visible with
  | none => rw [Attributes.get?_erase]
  | some style => rw [Attributes.get?_set]

/-- Of two decisions of a row the later one counts. -/
theorem setDisplay_setDisplay (attributes : Attributes) (earlier later : Bool) :
    Attributes.Agree (fun _ => True) (setDisplay (setDisplay attributes earlier) later)
      (setDisplay attributes later) := by
  intro name _
  simp only [get?_setDisplay, if_true, styleFor?_styleFor?]
  by_cases hname : name = styleName <;> simp [hname]

theorem setDisplay_agree {first second : Attributes} (h : first.Agree (fun _ => True) second)
    (visible : Bool) :
    (setDisplay first visible).Agree (fun _ => True) (setDisplay second visible) := by
  intro name _
  rw [get?_setDisplay, get?_setDisplay, h styleName trivial, h name trivial]

end TitleSieve.Listing
