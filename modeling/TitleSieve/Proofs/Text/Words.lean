import Mathlib.Data.List.Chain
import TitleSieve.Proofs.Text.Cuts

/-!
The words of a text. They are its maximal runs of characters that are not blank, and blanks are all
that stands before, between and behind them. Squeezing the blanks of a text and trimming it leaves
its words, one space apart; in such a text nothing is left to squeeze or to trim.
-/

namespace TitleSieve.Text

def IsWord (t : Text) : Prop := t ≠ [] ∧ ∀ c ∈ t, isBlank c = false

/-- The text is cut at its blanks: each run goes on until a blank or the end of the text. -/
inductive CutIntoRuns : Text → List Text → Prop where
  | blanks {blanks : Text} (hblanks : isAllBlank blanks = true) : CutIntoRuns blanks []
  | run {blanks word rest : Text} {more : List Text} (hblanks : isAllBlank blanks = true)
      (hword : IsWord word) (hend : ∀ c ∈ rest.head?, isBlank c = true)
      (hrest : CutIntoRuns rest more) : CutIntoRuns (blanks ++ word ++ rest) (word :: more)

theorem words_cons_of_isBlank {c : Char} (hc : isBlank c = true) (t : Text) :
    words (c :: t) = words t := by
  simp [words, split, hc]

theorem words_blanks_append {blanks : Text} (h : isAllBlank blanks = true) (t : Text) :
    words (blanks ++ t) = words t := by
  induction blanks with
  | nil => rfl
  | cons c rest ih =>
    have hall : isBlank c = true ∧ isAllBlank rest = true := by simpa [isAllBlank] using h
    rw [List.cons_append, words_cons_of_isBlank hall.1, ih hall.2]

theorem IsWord.words_eq {t : Text} (h : IsWord t) : words t = [t] := by
  simp [words, split_of_forall h.2, h.1]

/-- A word ends where a blank follows. -/
theorem IsWord.words_append {word rest : Text} (h : IsWord word)
    (hend : ∀ c ∈ rest.head?, isBlank c = true) : words (word ++ rest) = word :: words rest := by
  cases rest with
  | nil => rw [List.append_nil, h.words_eq]; rfl
  | cons c more =>
    have hc : isBlank c = true := hend c rfl
    calc
      words (word ++ c :: more) = words word ++ words more := by
        rw [words, split_append_cons hc, List.filter_append, ← words, ← words]
      _ = word :: words (c :: more) := by
        rw [h.words_eq, words_cons_of_isBlank hc, List.singleton_append]

theorem CutIntoRuns.words_eq {t : Text} {runs : List Text} (h : CutIntoRuns t runs) :
    words t = runs := by
  induction h with
  | @blanks blanks hblanks =>
    rw [← List.append_nil blanks, words_blanks_append hblanks]
    rfl
  | run hblanks hword hend _ ih =>
    rw [List.append_assoc, words_blanks_append hblanks, hword.words_append hend, ih]

theorem exists_cutIntoRuns (t : Text) : ∃ runs, CutIntoRuns t runs := by
  induction hlength : t.length using Nat.strong_induction_on generalizing t with
  | _ length ih =>
    have hcut : t.takeWhile isBlank ++ t.dropWhile isBlank = t := List.takeWhile_append_dropWhile
    have hblanks : isAllBlank (t.takeWhile isBlank) = true :=
      List.all_eq_true.mpr fun c hc => List.mem_takeWhile_imp hc
    cases hleft : t.dropWhile isBlank with
    | nil =>
      rw [hleft, List.append_nil] at hcut
      exact ⟨[], hcut ▸ .blanks hblanks⟩
    | cons c left =>
      have hc : isBlank c = false := by
        have hhead := List.head?_dropWhile_not isBlank t
        rw [hleft] at hhead
        simpa using hhead
      -- The first word ends at the first blank behind it.
      have hsplit : (c :: left).takeWhile (!isBlank ·) ++ (c :: left).dropWhile (!isBlank ·) =
          c :: left := List.takeWhile_append_dropWhile
      have hword : IsWord ((c :: left).takeWhile (!isBlank ·)) := by
        refine ⟨by simp [hc], fun d hd => ?_⟩
        simpa using List.mem_takeWhile_imp hd
      have hend : ∀ d ∈ ((c :: left).dropWhile (!isBlank ·)).head?, isBlank d = true := by
        have hhead := List.head?_dropWhile_not (fun d => !isBlank d) (c :: left)
        intro d hd
        rw [Option.mem_def.mp hd] at hhead
        simpa using hhead
      have hshort : ((c :: left).dropWhile (!isBlank ·)).length < length := by
        have hpos : 0 < ((c :: left).takeWhile (!isBlank ·)).length :=
          List.length_pos_iff.mpr hword.1
        have htotal := congrArg List.length hcut
        have hparts := congrArg List.length hsplit
        rw [hleft] at htotal
        rw [List.length_append] at htotal hparts
        omega
      obtain ⟨more, hmore⟩ := ih _ hshort _ rfl
      refine ⟨(c :: left).takeWhile (!isBlank ·) :: more, ?_⟩
      have hrun := CutIntoRuns.run hblanks hword hend hmore
      rwa [List.append_assoc, hsplit, ← hleft, hcut, hleft] at hrun

/-- The words are the maximal runs, and there is only one way to cut a text into these. -/
theorem words_eq_iff {t : Text} {runs : List Text} : words t = runs ↔ CutIntoRuns t runs := by
  constructor
  · intro h
    obtain ⟨others, hothers⟩ := exists_cutIntoRuns t
    rwa [← h, hothers.words_eq]
  · exact CutIntoRuns.words_eq

theorem isWord_of_mem_words {t word : Text} (h : word ∈ words t) : IsWord word := by
  obtain ⟨hmem, hne⟩ := List.mem_filter.mp h
  exact ⟨by simpa using hne, forall_of_mem_split hmem⟩

theorem words_cons_ne_nil {c : Char} (hc : isBlank c = false) (t : Text) : words (c :: t) ≠ [] := by
  obtain ⟨first, more, hsplit⟩ := List.exists_cons_of_ne_nil (split_ne_nil isBlank t)
  simp [words, split_cons hc, hsplit]

/-- A character that is not blank begins the first word or is one by itself. -/
theorem words_cons_of_not_blank {c : Char} (hc : isBlank c = false) (t : Text) :
    words (c :: t) =
      match t with
      | [] => [[c]]
      | d :: _ => if isBlank d then [c] :: words t else (words t).modifyHead (c :: ·) := by
  have hword : IsWord [c] := ⟨List.cons_ne_nil _ _, by simpa using hc⟩
  cases t with
  | nil => exact hword.words_eq
  | cons d rest =>
    by_cases hd : isBlank d = true
    · have hend : ∀ e ∈ (d :: rest).head?, isBlank e = true := by simpa using hd
      simpa [hd] using hword.words_append hend
    · have hd : isBlank d = false := by simpa using hd
      obtain ⟨first, more, hsplit⟩ := List.exists_cons_of_ne_nil (split_ne_nil isBlank rest)
      simp [words, split, hc, hd, hsplit]

/-- What squeezing leaves in front of the first word. -/
def squeezedStart : Text → Text
  | [] => []
  | c :: _ => if isBlank c then [' '] else []

/-- Squeezing leaves the words one space apart, with a space at most on either side. -/
theorem exists_squeeze_eq (t : Text) :
    ∃ after, isAllBlank after = true ∧
      squeeze t = squeezedStart t ++ joinWith [' '] (words t) ++ after := by
  fun_induction squeeze t with
  | case1 => exact ⟨[], rfl, rfl⟩
  | case2 c hblank =>
    exact ⟨[], rfl, by simp [squeezedStart, hblank, words, split, joinWith]⟩
  | case3 c hblank =>
    have hblank : isBlank c = false := by simpa using hblank
    exact ⟨[], rfl, by simp [squeezedStart, hblank, words_cons_of_not_blank hblank, joinWith]⟩
  | case4 c d rest hblank hnext ih =>
    obtain ⟨after, hafter, heq⟩ := ih
    exact ⟨after, hafter, by simpa [squeezedStart, hblank, hnext, words_cons_of_isBlank hblank]
      using heq⟩
  | case5 c d rest hblank hnext ih =>
    obtain ⟨after, hafter, heq⟩ := ih
    have hnext : isBlank d = false := by simpa using hnext
    exact ⟨after, hafter, by simp [squeezedStart, hblank, hnext, words_cons_of_isBlank hblank, heq]⟩
  | case6 c d rest hblank ih =>
    obtain ⟨after, hafter, heq⟩ := ih
    have hblank : isBlank c = false := by simpa using hblank
    rw [heq, words_cons_of_not_blank hblank]
    by_cases hnext : isBlank d = true
    · cases hwords : words (d :: rest) with
      | nil =>
        have hspace : isBlank ' ' = true := by decide
        have hlonger : isAllBlank (' ' :: after) = true := by
          rw [isAllBlank, List.all_cons, hspace, Bool.true_and]
          exact hafter
        exact ⟨' ' :: after, hlonger, by simp [squeezedStart, hblank, hnext, joinWith]⟩
      | cons first more =>
        refine ⟨after, hafter, ?_⟩
        simp [squeezedStart, hblank, hnext, joinWith]
    · have hnext : isBlank d = false := by simpa using hnext
      refine ⟨after, hafter, ?_⟩
      cases hwords : words (d :: rest) with
      | nil => exact absurd hwords (words_cons_ne_nil hnext rest)
      | cons first more =>
        cases more with
        | nil => simp [squeezedStart, hblank, hnext, joinWith]
        | cons second others => simp [squeezedStart, hblank, hnext, joinWith]

/-- Words that stand one space apart: no blank at either end, none beside another, and no blank that
is not a space. -/
structure IsCollapsed (t : Text) : Prop where
  head_not_blank : ∀ c ∈ t.head?, isBlank c = false
  last_not_blank : ∀ c ∈ t.getLast?, isBlank c = false
  blank_eq_space : ∀ c ∈ t, isBlank c = true → c = ' '
  none_doubled : t.IsChain fun c d => isBlank c = false ∨ isBlank d = false

theorem IsWord.isCollapsed {t : Text} (h : IsWord t) : IsCollapsed t where
  head_not_blank c hc := h.2 c (List.mem_of_mem_head? hc)
  last_not_blank c hc := h.2 c (List.mem_of_mem_getLast? hc)
  blank_eq_space c hc hblank := by
    rw [h.2 c hc] at hblank
    cases hblank
  none_doubled := by
    refine List.Pairwise.isChain (List.pairwise_iff_getElem.mpr fun i j hi hj _ => .inl ?_)
    exact h.2 _ (List.getElem_mem hi)

theorem isCollapsed_joinWith {ws : List Text} (h : ∀ word ∈ ws, IsWord word) :
    IsCollapsed (joinWith [' '] ws) := by
  induction ws with
  | nil => exact ⟨by simp [joinWith], by simp [joinWith], by simp [joinWith], .nil⟩
  | cons word rest ih =>
    have hword := h word List.mem_cons_self
    cases rest with
    | nil => exact hword.isCollapsed
    | cons next more =>
      have hrest := ih fun other hother => h other (List.mem_cons_of_mem _ hother)
      have hnext := h next (by simp)
      have hne : joinWith [' '] (next :: more) ≠ [] := by
        cases more <;> simp [joinWith, hnext.1]
      have hjoin : joinWith [' '] (word :: next :: more) =
          word ++ ' ' :: joinWith [' '] (next :: more) := by simp [joinWith]
      rw [hjoin]
      generalize joinWith [' '] (next :: more) = joined at hrest hne
      refine ⟨fun c hc => ?_, fun c hc => ?_, fun c hc hblank => ?_, ?_⟩
      · rw [List.head?_append_of_ne_nil _ hword.1] at hc
        exact hword.isCollapsed.head_not_blank c hc
      · rw [List.getLast?_append_of_ne_nil _ (List.cons_ne_nil _ _),
          List.getLast?_cons_of_ne_nil hne] at hc
        exact hrest.last_not_blank c hc
      · rcases List.mem_append.mp hc with hc | hc
        · exact hword.isCollapsed.blank_eq_space c hc hblank
        · rcases List.mem_cons.mp hc with rfl | hc
          · rfl
          · exact hrest.blank_eq_space c hc hblank
      · have hspaced : (' ' :: joined).IsChain fun c d =>
            isBlank c = false ∨ isBlank d = false := by
          rw [List.isChain_cons]
          exact ⟨fun d hd => .inr (hrest.head_not_blank d hd), hrest.none_doubled⟩
        rw [List.isChain_append]
        exact ⟨hword.isCollapsed.none_doubled, hspaced,
          fun c hc _ _ => .inl (hword.2 c (List.mem_of_mem_getLast? hc))⟩

theorem IsCollapsed.trim_eq {t : Text} (h : IsCollapsed t) : trim t = t :=
  (trim_eq_self_iff t).mpr ⟨h.head_not_blank, h.last_not_blank⟩

/-- Squeezing and trimming leave the words, one space apart. -/
theorem trim_squeeze (t : Text) : trim (squeeze t) = joinWith [' '] (words t) := by
  obtain ⟨after, hafter, heq⟩ := exists_squeeze_eq t
  have hjoined : IsCollapsed (joinWith [' '] (words t)) :=
    isCollapsed_joinWith fun word hword => isWord_of_mem_words hword
  rw [heq, trim_append_of_isAllBlank _ hafter]
  have hstart : squeezedStart t = [] ∨ squeezedStart t = [' '] := by
    cases t with
    | nil => exact .inl rfl
    | cons c rest => cases hc : isBlank c <;> simp [squeezedStart, hc]
  rcases hstart with hnil | hspace
  · rw [hnil, List.nil_append, hjoined.trim_eq]
  · rw [hspace, List.singleton_append, trim_cons_of_isBlank (by decide), hjoined.trim_eq]

/-- Words that stand one space apart are read back. -/
theorem words_joinWith {ws : List Text} (h : ∀ word ∈ ws, IsWord word) :
    words (joinWith [' '] ws) = ws := by
  induction ws with
  | nil => rfl
  | cons word rest ih =>
    have hword := h word List.mem_cons_self
    cases rest with
    | nil => exact hword.words_eq
    | cons next more =>
      have hjoin : joinWith [' '] (word :: next :: more) =
          word ++ ' ' :: joinWith [' '] (next :: more) := by simp [joinWith]
      rw [hjoin, hword.words_append (by simp [isBlank, isBlankCode]),
        words_cons_of_isBlank (by decide),
        ih fun other hother => h other (List.mem_cons_of_mem _ hother)]

end TitleSieve.Text
