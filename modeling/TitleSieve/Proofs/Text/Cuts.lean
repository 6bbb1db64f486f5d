import Mathlib.Data.List.DropRight
import TitleSieve.Text.Basic

/-!
How the cuts of a text fit together. Splitting is the splitting of lists, so it goes through a
text that is put together at a separator. A trimmed text has no blank at either end. The pieces of
a text, trimmed and without the empty ones, are what rules, groups and styles are read as; they do
not see blanks around them, and pieces written behind one another are read back.
-/

namespace TitleSieve.Text

theorem occursIn_iff_infix (needle t : Text) : occursIn needle t = true ↔ needle <:+: t := by
  induction t with
  | nil => simp [occursIn]
  | cons c rest ih =>
    simp only [occursIn, Bool.or_eq_true, ih, List.infix_cons_iff, List.isPrefixOf_iff_prefix]

theorem split_eq_splitOnP (isSeparator : Char → Bool) (t : Text) :
    split isSeparator t = t.splitOnP isSeparator := by
  induction t with
  | nil => rfl
  | cons c rest ih =>
    rw [List.splitOnP_cons_eq_if_modifyHead, ← ih]
    by_cases hc : isSeparator c
    · simp only [split, hc, if_true]
    · simp only [split, hc]
      cases hsplit : split isSeparator rest with
      | nil =>
        rw [ih] at hsplit
        exact absurd hsplit (List.splitOnP_ne_nil isSeparator rest)
      | cons piece more => rfl

theorem split_ne_nil (isSeparator : Char → Bool) (t : Text) : split isSeparator t ≠ [] := by
  rw [split_eq_splitOnP]
  exact List.splitOnP_ne_nil isSeparator t

theorem split_append_cons {isSeparator : Char → Bool} {c : Char} (hc : isSeparator c = true)
    (first second : Text) :
    split isSeparator (first ++ c :: second) =
      split isSeparator first ++ split isSeparator second := by
  simp only [split_eq_splitOnP, List.splitOnP_append_cons first second hc]

theorem split_of_forall {isSeparator : Char → Bool} {t : Text}
    (h : ∀ c ∈ t, isSeparator c = false) : split isSeparator t = [t] := by
  rw [split_eq_splitOnP, List.splitOnP_eq_singleton h]

theorem split_cons {isSeparator : Char → Bool} {c : Char} (hc : isSeparator c = false) (t : Text) :
    split isSeparator (c :: t) = (split isSeparator t).modifyHead (c :: ·) := by
  simp only [split_eq_splitOnP, List.splitOnP_cons_eq_if_modifyHead, hc, Bool.false_eq_true,
    if_false]

/-- Separators may stand for one another: where nothing else is changed, the pieces stay. -/
theorem split_map {isSeparator : Char → Bool} {f : Char → Char}
    (hsep : ∀ c, isSeparator c = true → isSeparator (f c) = true)
    (hother : ∀ c, isSeparator c = false → f c = c) (t : Text) :
    split isSeparator (t.map f) = split isSeparator t := by
  induction t with
  | nil => rfl
  | cons c rest ih =>
    rw [List.map_cons]
    cases hc : isSeparator c with
    | true => rw [split, if_pos (hsep c hc), ih, split, if_pos hc]
    | false => rw [hother c hc, split_cons hc, split_cons hc, ih]

theorem forall_of_mem_split {isSeparator : Char → Bool} {t piece : Text}
    (h : piece ∈ split isSeparator t) : ∀ c ∈ piece, isSeparator c = false := by
  induction t generalizing piece with
  | nil =>
    rw [split, List.mem_singleton] at h
    simp [h]
  | cons c rest ih =>
    by_cases hc : isSeparator c
    · simp only [split, hc, if_true, List.mem_cons] at h
      rcases h with rfl | h
      · simp
      · exact ih h
    · rw [split_cons (by simpa using hc)] at h
      cases hsplit : split isSeparator rest with
      | nil => simp [hsplit] at h
      | cons first more =>
        rw [hsplit, List.modifyHead_cons, List.mem_cons] at h
        rcases h with rfl | h
        · intro d hd
          rcases List.mem_cons.mp hd with rfl | hd
          · simpa using hc
          · exact ih (by rw [hsplit]; exact List.mem_cons_self) d hd
        · exact ih (by rw [hsplit]; exact List.mem_cons_of_mem _ h)

/-- What is put behind a text belongs to its last piece, as long as it holds no separator. -/
theorem exists_split_append {isSeparator : Char → Bool} (t : Text) {added : Text}
    (h : ∀ c ∈ added, isSeparator c = false) :
    ∃ before last, split isSeparator t = before ++ [last] ∧
      split isSeparator (t ++ added) = before ++ [last ++ added] := by
  induction t with
  | nil => exact ⟨[], [], rfl, split_of_forall h⟩
  | cons c rest ih =>
    obtain ⟨before, last, hrest, hadded⟩ := ih
    by_cases hc : isSeparator c = true
    · refine ⟨[] :: before, last, ?_, ?_⟩
      · rw [split, if_pos hc, hrest, List.cons_append]
      · rw [List.cons_append, split, if_pos hc, hadded, List.cons_append]
    · have hc : isSeparator c = false := by simpa using hc
      rw [List.cons_append, split_cons hc, split_cons hc, hrest, hadded]
      cases before with
      | nil => exact ⟨[], c :: last, rfl, rfl⟩
      | cons first more => exact ⟨(c :: first) :: more, last, rfl, rfl⟩

theorem trimEnd_eq_rdropWhile (t : Text) : trimEnd t = t.rdropWhile isBlank := rfl

theorem mem_of_mem_trim {c : Char} {t : Text} (h : c ∈ trim t) : c ∈ t := by
  have hstart : c ∈ trimStart t := (List.rdropWhile_prefix isBlank (trimStart t)).mem h
  exact (List.dropWhile_suffix isBlank).mem hstart

/-- Cutting off the end leaves the start as it is. -/
theorem trimStart_trimEnd_trimStart (t : Text) :
    trimStart (trimEnd (trimStart t)) = trimEnd (trimStart t) := by
  cases hend : trimEnd (trimStart t) with
  | nil => rfl
  | cons c rest =>
    have hprefix : trimEnd (trimStart t) <+: trimStart t := List.rdropWhile_prefix isBlank _
    rw [hend] at hprefix
    obtain ⟨more, hmore⟩ := hprefix
    have hhead := List.head?_dropWhile_not isBlank t
    rw [show t.dropWhile isBlank = c :: (rest ++ more) from hmore.symm] at hhead
    simp only [List.head?_cons] at hhead
    simp [trimStart, hhead]

theorem trim_trim (t : Text) : trim (trim t) = trim t := by
  unfold trim
  rw [trimStart_trimEnd_trimStart, trimEnd_eq_rdropWhile, trimEnd_eq_rdropWhile,
    List.rdropWhile_idempotent]

theorem trimStart_eq_self_iff (t : Text) :
    trimStart t = t ↔ ∀ c ∈ t.head?, isBlank c = false := by
  cases t with
  | nil => simp [trimStart]
  | cons c rest =>
    rw [trimStart, List.dropWhile_eq_self_iff]
    simp

theorem trimEnd_eq_self_iff (t : Text) :
    trimEnd t = t ↔ ∀ c ∈ t.getLast?, isBlank c = false := by
  have h := trimStart_eq_self_iff t.reverse
  rw [List.head?_reverse] at h
  rw [← h, trimEnd, trimStart]
  exact List.reverse_eq_iff

theorem trim_eq_self_iff (t : Text) :
    trim t = t ↔ (∀ c ∈ t.head?, isBlank c = false) ∧ ∀ c ∈ t.getLast?, isBlank c = false := by
  rw [← trimStart_eq_self_iff, ← trimEnd_eq_self_iff]
  constructor
  · intro h
    have hstart : trimStart t = t := by
      calc
        trimStart t = trimStart (trim t) := by rw [h]
        _ = trim t := trimStart_trimEnd_trimStart t
        _ = t := h
    have hend : trimEnd t = t := by rwa [trim, hstart] at h
    exact ⟨hstart, hend⟩
  · rintro ⟨hstart, hend⟩
    rw [trim, hstart, hend]

theorem trim_eq_nil_iff (t : Text) : trim t = [] ↔ isAllBlank t = true := by
  rw [isAllBlank, List.all_eq_true, trim, trimEnd_eq_rdropWhile, List.rdropWhile_eq_nil_iff]
  constructor
  · intro h
    cases hstart : trimStart t with
    | nil => exact List.dropWhile_eq_nil_iff.mp hstart
    | cons c rest =>
      have hhead := List.head?_dropWhile_not isBlank t
      rw [show t.dropWhile isBlank = c :: rest from hstart] at hhead
      have hc : isBlank c = true := h c (by rw [hstart]; exact List.mem_cons_self)
      simp [hc] at hhead
  · intro h c hc
    exact h c ((List.dropWhile_suffix isBlank).mem hc)

theorem trim_append_of_isAllBlank (t : Text) {blanks : Text} (h : isAllBlank blanks = true) :
    trim (t ++ blanks) = trim t := by
  have hall : ∀ c ∈ blanks, isBlank c = true := List.all_eq_true.mp h
  have hend : ∀ u : Text, trimEnd (u ++ blanks) = trimEnd u := by
    intro u
    have hreverse : ∀ c ∈ blanks.reverse, isBlank c = true := fun c hc =>
      hall c (List.mem_reverse.mp hc)
    rw [trimEnd, List.reverse_append, List.dropWhile_append_of_pos hreverse, ← trimEnd]
  unfold trim trimStart
  rw [List.dropWhile_append]
  split
  · rename_i hempty
    have hnil : t.dropWhile isBlank = [] := List.isEmpty_iff.mp hempty
    have hblanks : blanks.dropWhile isBlank = [] := List.dropWhile_eq_nil_iff.mpr hall
    rw [hnil, hblanks]
  · exact hend _

/-- Trimming takes blanks from both ends. -/
theorem exists_eq_append_trim_append (t : Text) :
    ∃ before after, t = before ++ trim t ++ after ∧ isAllBlank before = true ∧
      isAllBlank after = true := by
  have hstart : t.takeWhile isBlank ++ trimStart t = t := List.takeWhile_append_dropWhile
  have hend : trimEnd (trimStart t) ++ (trimStart t).rtakeWhile isBlank = trimStart t :=
    List.rdropWhile_append_rtakeWhile
  refine ⟨t.takeWhile isBlank, (trimStart t).rtakeWhile isBlank, ?_, ?_, ?_⟩
  · rw [trim, List.append_assoc, hend, hstart]
  · exact List.all_eq_true.mpr fun c hc => List.mem_takeWhile_imp hc
  · exact List.all_eq_true.mpr fun c hc => List.mem_rtakeWhile_imp hc

theorem trim_cons_of_isBlank {c : Char} (hc : isBlank c = true) (t : Text) :
    trim (c :: t) = trim t := by
  simp [trim, trimStart, hc]

def pieces (isSeparator : Char → Bool) (t : Text) : List Text :=
  ((split isSeparator t).map trim).filter (!·.isEmpty)

theorem pieces_append_cons {isSeparator : Char → Bool} {c : Char} (hc : isSeparator c = true)
    (first second : Text) :
    pieces isSeparator (first ++ c :: second) =
      pieces isSeparator first ++ pieces isSeparator second := by
  simp only [pieces, split_append_cons hc, List.map_append, List.filter_append]

theorem pieces_cons_of_isBlank {isSeparator : Char → Bool} {c : Char} (hc : isBlank c = true)
    (hsep : isSeparator c = false) (t : Text) :
    pieces isSeparator (c :: t) = pieces isSeparator t := by
  unfold pieces
  rw [split_cons hsep]
  cases split isSeparator t with
  | nil => rfl
  | cons first more =>
    rw [List.modifyHead_cons, List.map_cons, List.map_cons, trim_cons_of_isBlank hc]

/-- A piece that is read from itself alone: not empty, trimmed, and without a separator. -/
def IsPiece (isSeparator : Char → Bool) (t : Text) : Prop :=
  t ≠ [] ∧ trim t = t ∧ ∀ c ∈ t, isSeparator c = false

theorem isPiece_of_mem_pieces {isSeparator : Char → Bool} {t piece : Text}
    (h : piece ∈ pieces isSeparator t) : IsPiece isSeparator piece := by
  obtain ⟨hmem, hne⟩ := List.mem_filter.mp h
  obtain ⟨cut, hcut, rfl⟩ := List.mem_map.mp hmem
  refine ⟨by simpa using hne, trim_trim cut, fun c hc => ?_⟩
  exact forall_of_mem_split hcut c (mem_of_mem_trim hc)

/-- The first piece stands at the start of the text, and each other piece somewhere behind. -/
theorem infix_of_mem_split {isSeparator : Char → Bool} {t piece : Text}
    (h : piece ∈ split isSeparator t) : piece <:+: t := by
  have hparts : ∃ first more, split isSeparator t = first :: more ∧ first <+: t ∧
      ∀ other ∈ more, other <:+: t := by
    clear h
    induction t with
    | nil => exact ⟨[], [], rfl, List.prefix_rfl, by simp⟩
    | cons c rest ih =>
      obtain ⟨first, more, hsplit, hfirst, hmore⟩ := ih
      by_cases hc : isSeparator c = true
      · refine ⟨[], first :: more, by rw [split, if_pos hc, hsplit], List.nil_prefix, ?_⟩
        rw [List.forall_mem_cons]
        exact ⟨List.infix_cons hfirst.isInfix,
          fun other hother => List.infix_cons (hmore other hother)⟩
      · refine ⟨c :: first, more, ?_, List.cons_prefix_cons.mpr ⟨rfl, hfirst⟩,
          fun other hother => List.infix_cons (hmore other hother)⟩
        rw [split_cons (by simpa using hc), hsplit, List.modifyHead_cons]
  obtain ⟨first, more, hsplit, hfirst, hmore⟩ := hparts
  rw [hsplit, List.mem_cons] at h
  rcases h with rfl | h
  · exact hfirst.isInfix
  · exact hmore piece h

theorem infix_trim (t : Text) : trim t <:+: t :=
  (List.rdropWhile_prefix isBlank (trimStart t)).isInfix.trans
    (List.dropWhile_suffix isBlank).isInfix

theorem infix_of_mem_pieces {isSeparator : Char → Bool} {t piece : Text}
    (h : piece ∈ pieces isSeparator t) : piece <:+: t := by
  obtain ⟨part, hpart, rfl⟩ := List.mem_map.mp (List.mem_filter.mp h).1
  exact (infix_trim part).trans (infix_of_mem_split hpart)

theorem IsPiece.pieces_eq {isSeparator : Char → Bool} {t : Text} (h : IsPiece isSeparator t) :
    pieces isSeparator t = [t] := by
  obtain ⟨hne, htrim, hsep⟩ := h
  simp [pieces, split_of_forall hsep, htrim, hne]

section

variable {isSeparator : Char → Bool} {blanks : Text}

theorem beq_eq_false_of_isBlank {c d : Char} (hc : isBlank c = true) (hd : isBlank d = false) :
    (c == d) = false := by
  rw [beq_eq_false_iff_ne]
  rintro rfl
  rw [hc] at hd
  cases hd

/-- Blanks at the front belong to no piece. -/
theorem pieces_blanks_append (hsep : ∀ c, isBlank c = true → isSeparator c = false)
    (hblanks : isAllBlank blanks = true) (t : Text) :
    pieces isSeparator (blanks ++ t) = pieces isSeparator t := by
  induction blanks with
  | nil => rfl
  | cons c rest ih =>
    have hall : isBlank c = true ∧ isAllBlank rest = true := by simpa [isAllBlank] using hblanks
    rw [List.cons_append, pieces_cons_of_isBlank hall.1 (hsep c hall.1)]
    exact ih hall.2

/-- Blanks at the end belong to no piece. -/
theorem pieces_append_blanks (hsep : ∀ c, isBlank c = true → isSeparator c = false)
    (hblanks : isAllBlank blanks = true) (t : Text) :
    pieces isSeparator (t ++ blanks) = pieces isSeparator t := by
  have hnone : ∀ c ∈ blanks, isSeparator c = false := fun c hc =>
    hsep c (List.all_eq_true.mp hblanks c hc)
  obtain ⟨before, last, hsplit, hadded⟩ := exists_split_append t hnone
  unfold pieces
  rw [hsplit, hadded, List.map_append, List.map_append, List.map_singleton, List.map_singleton,
    trim_append_of_isAllBlank last hblanks]

theorem pieces_trim (hsep : ∀ c, isBlank c = true → isSeparator c = false) (t : Text) :
    pieces isSeparator (trim t) = pieces isSeparator t := by
  obtain ⟨before, after, ht, hbefore, hafter⟩ := exists_eq_append_trim_append t
  have hpieces : pieces isSeparator (before ++ trim t ++ after) = pieces isSeparator (trim t) := by
    rw [pieces_append_blanks hsep hafter, pieces_blanks_append hsep hbefore]
  rw [← hpieces, ← ht]

theorem pieces_of_forall {t : Text} (hblank : isAllBlank t = false)
    (h : ∀ c ∈ t, isSeparator c = false) : pieces isSeparator t = [trim t] := by
  have hne : trim t ≠ [] := by
    rw [Ne, trim_eq_nil_iff, hblank]
    exact Bool.false_ne_true
  simp [pieces, split_of_forall h, hne]

/-- A text has no pieces exactly if it holds nothing but blanks and separators. -/
theorem pieces_eq_nil_iff (hsep : ∀ c, isBlank c = true → isSeparator c = false) (t : Text) :
    pieces isSeparator t = [] ↔ ∀ c ∈ t, isBlank c = true ∨ isSeparator c = true := by
  induction t with
  | nil => simp [pieces, split, trim, trimStart, trimEnd]
  | cons c rest ih =>
    rw [List.forall_mem_cons, ← ih]
    by_cases hblank : isBlank c = true
    · rw [pieces_cons_of_isBlank hblank (hsep c hblank)]
      simp [hblank]
    · by_cases hc : isSeparator c = true
      · have hcut : pieces isSeparator (c :: rest) = pieces isSeparator rest :=
          pieces_append_cons hc [] rest
        simp [hcut, hc]
      · have hc : isSeparator c = false := by simpa using hc
        have hne : pieces isSeparator (c :: rest) ≠ [] := by
          obtain ⟨first, more, hsplit⟩ := List.exists_cons_of_ne_nil (split_ne_nil isSeparator rest)
          have htrim : trim (c :: first) ≠ [] := by
            rw [Ne, trim_eq_nil_iff]
            simp [isAllBlank, hblank]
          unfold pieces
          rw [split_cons hc, hsplit, List.modifyHead_cons, List.map_cons]
          simp [htrim]
        simp [hne, hblank, hc]

theorem mem_joinWith {c : Char} {glue : Text} {ts : List Text} (h : c ∈ joinWith glue ts) :
    c ∈ glue ∨ ∃ t ∈ ts, c ∈ t := by
  induction ts with
  | nil => cases h
  | cons t rest ih =>
    cases rest with
    | nil => exact .inr ⟨t, List.mem_cons_self, h⟩
    | cons next more =>
      rcases List.mem_append.mp h with h | h
      · rcases List.mem_append.mp h with h | h
        · exact .inr ⟨t, List.mem_cons_self, h⟩
        · exact .inl h
      · rcases ih h with hglue | ⟨u, hu, hc⟩
        · exact .inl hglue
        · exact .inr ⟨u, List.mem_cons_of_mem _ hu, hc⟩

/-- Pieces that stand behind one another, with a separator and blanks between them, are read
back. -/
theorem pieces_joinWith (hsep : ∀ c, isBlank c = true → isSeparator c = false) {c : Char}
    (hc : isSeparator c = true) (hblanks : isAllBlank blanks = true) (ts : List Text)
    (h : ∀ t ∈ ts, IsPiece isSeparator t) :
    pieces isSeparator (joinWith (c :: blanks) ts) = ts := by
  induction ts with
  | nil => rfl
  | cons t rest ih =>
    have ht := (h t List.mem_cons_self).pieces_eq
    cases rest with
    | nil => exact ht
    | cons next more =>
      have hrest := ih fun u hu => h u (List.mem_cons_of_mem _ hu)
      have hjoin : joinWith (c :: blanks) (t :: next :: more) =
          t ++ c :: (blanks ++ joinWith (c :: blanks) (next :: more)) := by
        simp [joinWith]
      rw [hjoin, pieces_append_cons hc, pieces_blanks_append hsep hblanks, ht, hrest,
        List.singleton_append]

end

end TitleSieve.Text
