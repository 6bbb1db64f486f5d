import TitleSieve.Text.Lines

/-!
Reading lines. A line that is read holds no line end of any kind, and lines without line ends,
each closed by a line feed, are read back as they are. Such a text holds no carriage return, so it
is also left alone by the reading of a file. Any other text has the same lines after that reading.
-/

namespace TitleSieve.Text

def closeLines (ls : List Text) : Text := ls.flatMap (· ++ ['\n'])

/-- No character of the text ends a line. -/
def IsLine (t : Text) : Prop := ∀ c ∈ t, isLineEnd c = false

theorem IsLine.ne_return {t : Text} (h : IsLine t) {c : Char} (hc : c ∈ t) : c ≠ '\r' := by
  rintro rfl
  exact absurd (h _ hc) (by decide)

theorem linesFrom_cons (current : Text) {c : Char} (hc : c ≠ '\r') (rest : Text) :
    linesFrom current (c :: rest) =
      if isLineEnd c then current.reverse :: linesFrom [] rest
      else linesFrom (c :: current) rest := by
  rw [linesFrom]
  rintro more rfl -
  exact hc rfl

theorem linesFrom_append (current rest : Text) {line : Text} (h : IsLine line) :
    linesFrom current (line ++ '\n' :: rest) = (current.reverse ++ line) :: linesFrom [] rest := by
  induction line generalizing current with
  | nil =>
    rw [List.nil_append, linesFrom_cons current (by decide), if_pos (by decide), List.append_nil]
  | cons c more ih =>
    have hc : isLineEnd c = false := h c List.mem_cons_self
    have hmore : IsLine more := fun d hd => h d (List.mem_cons_of_mem _ hd)
    rw [List.cons_append, linesFrom_cons current (h.ne_return List.mem_cons_self), hc,
      if_neg Bool.false_ne_true, ih _ hmore, List.reverse_cons, List.append_assoc,
      List.singleton_append]

/-- Closed lines are read back. -/
theorem lines_closeLines {ls : List Text} (h : ∀ line ∈ ls, IsLine line) :
    lines (closeLines ls) = ls := by
  induction ls with
  | nil => rfl
  | cons line rest ih =>
    have hrest := ih fun other hother => h other (List.mem_cons_of_mem _ hother)
    calc
      lines (closeLines (line :: rest)) = linesFrom [] (line ++ '\n' :: closeLines rest) := by
        simp [lines, closeLines]
      _ = line :: lines (closeLines rest) := by
        rw [linesFrom_append [] _ (h line List.mem_cons_self), List.reverse_nil, List.nil_append,
          lines]
      _ = line :: rest := by rw [hrest]

theorem isLine_reverse {t : Text} (h : IsLine t) : IsLine t.reverse := fun c hc =>
  h c (List.mem_reverse.mp hc)

theorem isLine_of_mem_linesFrom {current t line : Text} (hcurrent : IsLine current)
    (h : line ∈ linesFrom current t) : IsLine line := by
  have hnil : IsLine [] := by simp [IsLine]
  fun_induction linesFrom current t with
  | case1 current hempty => cases h
  | case2 current hempty =>
    rw [List.mem_singleton.mp h]
    exact isLine_reverse hcurrent
  | case3 current rest ih =>
    rcases List.mem_cons.mp h with rfl | h
    · exact isLine_reverse hcurrent
    · exact ih hnil h
  | case4 current c rest hreturn hend ih =>
    rcases List.mem_cons.mp h with rfl | h
    · exact isLine_reverse hcurrent
    · exact ih hnil h
  | case5 current c rest hreturn hend ih =>
    refine ih (fun d hd => ?_) h
    rcases List.mem_cons.mp hd with rfl | hd
    · simpa using hend
    · exact hcurrent d hd

theorem isLine_of_mem_lines {t line : Text} (h : line ∈ lines t) : IsLine line :=
  isLine_of_mem_linesFrom (by simp [IsLine]) h

theorem unifyLineFeeds_of_forall {t : Text} (h : ∀ c ∈ t, c ≠ '\r') : unifyLineFeeds t = t := by
  fun_induction unifyLineFeeds t with
  | case1 => rfl
  | case2 rest ih => exact absurd rfl (h '\r' List.mem_cons_self)
  | case3 rest hfeed ih => exact absurd rfl (h '\r' List.mem_cons_self)
  | case4 c rest hfeed hreturn ih => rw [ih fun d hd => h d (List.mem_cons_of_mem _ hd)]

theorem unifyLineFeeds_closeLines {ls : List Text} (h : ∀ line ∈ ls, IsLine line) :
    unifyLineFeeds (closeLines ls) = closeLines ls := by
  refine unifyLineFeeds_of_forall fun c hc => ?_
  obtain ⟨line, hline, hc⟩ := List.mem_flatMap.mp hc
  rcases List.mem_append.mp hc with hc | hc
  · exact (h line hline).ne_return hc
  · rw [List.mem_singleton.mp hc]
    decide

/-- A carriage return that no line feed follows becomes one; any other character stays. -/
theorem unifyLineFeeds_cons {c : Char} {rest : Text}
    (h : ∀ more, c = '\r' → rest = '\n' :: more → False) :
    unifyLineFeeds (c :: rest) = (if c = '\r' then '\n' else c) :: unifyLineFeeds rest := by
  by_cases hc : c = '\r'
  · subst hc
    rw [unifyLineFeeds, if_pos rfl]
    exact fun more hmore => h more rfl hmore
  · rw [unifyLineFeeds, if_neg hc]
    · exact fun more hreturn _ => hc hreturn
    · exact hc

/-- A carriage return ends a line just as the line feed does that it becomes. -/
theorem linesFrom_unifyLineFeeds (current t : Text) :
    linesFrom current (unifyLineFeeds t) = linesFrom current t := by
  fun_induction linesFrom current t with
  | case1 current hempty => simp [unifyLineFeeds, linesFrom, hempty]
  | case2 current hempty => simp [unifyLineFeeds, linesFrom, hempty]
  | case3 current rest ih =>
    rw [unifyLineFeeds, linesFrom_cons current (by decide), if_pos (by decide), ih]
  | case4 current c rest hreturn hend ih =>
    have hc : (if c = '\r' then '\n' else c) ≠ '\r' := by
      split
      · decide
      · assumption
    have hend' : isLineEnd (if c = '\r' then '\n' else c) = true := by
      split
      · decide
      · exact hend
    rw [unifyLineFeeds_cons hreturn, linesFrom_cons current hc, if_pos hend', ih]
  | case5 current c rest hreturn hend ih =>
    have hc : c ≠ '\r' := by
      rintro rfl
      exact hend (by decide)
    rw [unifyLineFeeds_cons hreturn, if_neg hc, linesFrom_cons current hc, if_neg hend, ih]

theorem lines_unifyLineFeeds (t : Text) : lines (unifyLineFeeds t) = lines t :=
  linesFrom_unifyLineFeeds [] t

end TitleSieve.Text
