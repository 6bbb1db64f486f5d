import TitleSieve.Markup.Event

/-!
The places where an insertion or verbatim text ends. An ending that has been found is found
whatever follows it. An ending that begins inside a content and is not complete there is not
completed by the ending that is written behind the content: so a content without an ending in it is
cut off as a whole.
-/

namespace TitleSieve.Text

theorem cutAt?_cons (mark c : Char) (rest : Text) :
    cutAt? [mark] (c :: rest) =
      if c = mark then some ([], rest)
      else (cutAt? [mark] rest).map fun cut => (c :: cut.1, cut.2) := by
  by_cases hc : c = mark
  · simp [cutAt?, hc]
  · simp [cutAt?, hc, Ne.symm hc]

theorem cutAt?_append {mark : Char} {content : Text} (h : mark ∉ content) (rest : Text) :
    cutAt? [mark] (content ++ mark :: rest) = some (content, rest) := by
  induction content with
  | nil => rw [List.nil_append, cutAt?_cons, if_pos rfl]
  | cons c content ih =>
    rw [List.mem_cons, not_or] at h
    obtain ⟨hc, hcontent⟩ := h
    rw [List.cons_append, cutAt?_cons, if_neg (Ne.symm hc), ih hcontent, Option.map_some]

theorem cutAt?_eq_some {mark : Char} {t content rest : Text}
    (h : cutAt? [mark] t = some (content, rest)) :
    t = content ++ mark :: rest ∧ mark ∉ content := by
  induction t generalizing content with
  | nil => simp [cutAt?] at h
  | cons c left ih =>
    rw [cutAt?_cons] at h
    by_cases hc : c = mark
    · rw [if_pos hc, Option.some.injEq, Prod.mk.injEq] at h
      obtain ⟨rfl, rfl⟩ := h
      exact ⟨by rw [hc, List.nil_append], List.not_mem_nil⟩
    · rw [if_neg hc, Option.map_eq_some_iff] at h
      obtain ⟨cut, hcut, hpair⟩ := h
      obtain ⟨rfl, rfl⟩ := Prod.mk.inj hpair
      obtain ⟨rfl, hnot⟩ := ih hcut
      exact ⟨rfl, List.not_mem_cons_of_ne_of_not_mem (Ne.symm hc) hnot⟩

end TitleSieve.Text

namespace TitleSieve.Markup.Event

section

variable {ends : Text → Option Text}

/-- A cut is made at the first place where the text ends. -/
theorem cutWhere?_eq_some {t content after : Text} (h : cutWhere? ends t = some (content, after)) :
    ∃ mark, t = content ++ mark ∧ ends mark = some after ∧
      ∀ left, left <:+ content → left ≠ [] → ends (left ++ mark) = none := by
  induction t generalizing content with
  | nil => cases h
  | cons c rest ih =>
    unfold cutWhere? at h
    cases hends : ends (c :: rest) with
    | some left =>
      simp only [hends, Option.some.injEq, Prod.mk.injEq] at h
      obtain ⟨rfl, rfl⟩ := h
      exact ⟨c :: rest, rfl, hends, fun left hleft hne => absurd (List.suffix_nil.mp hleft) hne⟩
    | none =>
      simp only [hends, Option.map_eq_some_iff, Prod.exists, Prod.mk.injEq] at h
      obtain ⟨before, _, hcut, rfl, rfl⟩ := h
      obtain ⟨mark, rfl, hmark, hnone⟩ := ih hcut
      refine ⟨mark, rfl, hmark, fun left hleft hne => ?_⟩
      rcases List.suffix_cons_iff.mp hleft with rfl | hleft
      · exact hends
      · exact hnone left hleft hne

/-- What ends nowhere before the mark is cut off as a whole. -/
theorem cutWhere?_append {content mark after : Text} (hmark : ends mark = some after)
    (hempty : ends [] = none)
    (hnone : ∀ left, left <:+ content → left ≠ [] → ends (left ++ mark) = none) :
    cutWhere? ends (content ++ mark) = some (content, after) := by
  induction content with
  | nil =>
    obtain ⟨c, rest, rfl⟩ := List.exists_cons_of_ne_nil (l := mark) (by
      rintro rfl
      rw [hempty] at hmark
      cases hmark)
    rw [List.nil_append, cutWhere?, hmark]
  | cons c content ih =>
    have hhere := hnone (c :: content) (List.suffix_refl _) (List.cons_ne_nil _ _)
    rw [List.cons_append] at hhere ⊢
    rw [cutWhere?, hhere, ih fun left hleft => hnone left (hleft.trans (List.suffix_cons _ _))]
    rfl

/-- A cut before a mark leaves the mark whole, or is made inside the content. -/
theorem exists_cutWhere?_append {mark after : Text} (hmark : ends mark = some after)
    (hempty : ends [] = none) (content : Text) :
    cutWhere? ends (content ++ mark) = some (content, after) ∨
      ∃ before inner left, content = before ++ inner ∧ inner ≠ [] ∧
        ends (inner ++ mark) = some left ∧
          cutWhere? ends (content ++ mark) = some (before, left) := by
  induction content with
  | nil =>
    exact .inl (cutWhere?_append hmark hempty fun _ hleft hne =>
      absurd (List.suffix_nil.mp hleft) hne)
  | cons c rest ih =>
    cases hends : ends (c :: rest ++ mark) with
    | some left =>
      refine .inr ⟨[], c :: rest, left, rfl, List.cons_ne_nil _ _, hends, ?_⟩
      rw [List.cons_append] at hends ⊢
      rw [cutWhere?, hends]
    | none =>
      rw [List.cons_append] at hends ⊢
      rw [cutWhere?, hends]
      rcases ih with hcut | ⟨before, inner, left, rfl, hne, hinner, hcut⟩
      · exact .inl (by rw [hcut]; rfl)
      · exact .inr ⟨c :: before, inner, left, rfl, hne, hinner, by rw [hcut]; rfl⟩

/-- Where endings are found whatever follows them, there is none in what is cut off. -/
theorem eq_none_of_cutWhere? {t content after : Text} (h : cutWhere? ends t = some (content, after))
    (hempty : ends [] = none)
    (hmore : ∀ {t after : Text}, ends t = some after →
      ∀ more, ends (t ++ more) = some (after ++ more))
    {left : Text} (hleft : left <:+ content) : ends left = none := by
  obtain ⟨mark, -, -, hnone⟩ := cutWhere?_eq_some h
  by_cases hne : left = []
  · rw [hne, hempty]
  · rw [Option.eq_none_iff_forall_ne_some]
    intro found hfound
    have h := hnone left hleft hne
    rw [hmore hfound] at h
    cases h

end

/-- What a text that has been extended ends with is an end of what was added or reaches over it. -/
theorem suffix_append_cases {inner run added : Text} (h : inner <:+ run ++ added) :
    inner <:+ added ∨ ∃ left, inner = left ++ added ∧ left <:+ run ∧ left ≠ [] := by
  rcases List.suffix_or_suffix_of_suffix h (List.suffix_append run added) with hinner | ⟨left, rfl⟩
  · exact .inl hinner
  · obtain ⟨before, hbefore⟩ := h
    rw [← List.append_assoc] at hbefore
    by_cases hne : left = []
    · exact .inl (by simp [hne])
    · exact .inr ⟨left, rfl, ⟨before, List.append_cancel_right hbefore⟩, hne⟩

theorem dropWhile_append_of_ne {p : Char → Bool} {t : Text} (h : t.dropWhile p ≠ []) (more : Text) :
    (t ++ more).dropWhile p = t.dropWhile p ++ more := by
  rw [List.dropWhile_append, if_neg (by simpa using h)]

theorem dropWhile_append_of_eq {p : Char → Bool} {t : Text} (h : t.dropWhile p = []) (more : Text) :
    (t ++ more).dropWhile p = more.dropWhile p := by
  rw [List.dropWhile_append, if_pos (by simpa using h)]

theorem endsComment?_eq_some_iff {t after : Text} :
    endsComment? t = some after ↔
      ∃ rest, t = '-' :: '-' :: rest ∧ rest.dropWhile Text.isBlank = '>' :: after := by
  constructor
  · intro h
    unfold endsComment? at h
    split at h
    · next rest =>
      split at h
      · next hrest =>
        cases h
        exact ⟨rest, rfl, hrest⟩
      · cases h
    · cases h
  · rintro ⟨rest, rfl, hrest⟩
    simp only [endsComment?, hrest]

theorem endsSection?_zero {t after : Text} :
    endsSection? 0 t = some after ↔ t = '>' :: after := by
  cases t with
  | nil => simp [endsSection?]
  | cons c rest =>
    by_cases hc : c = '>'
    · simp [endsSection?, hc]
    · simp [endsSection?, hc]

theorem endsSection?_succ {brackets : Nat} {t after : Text} :
    endsSection? (brackets + 1) t = some after ↔
      ∃ rest, t = ']' :: rest ∧
        endsSection? brackets (rest.dropWhile Text.isBlank) = some after := by
  cases t with
  | nil => simp [endsSection?]
  | cons c rest =>
    by_cases hc : c = ']'
    · simp [endsSection?, hc]
    · simp [endsSection?, hc]

theorem endsSection?_nil (brackets : Nat) : endsSection? brackets [] = none := by
  cases brackets <;> rfl

theorem endsComment?_append {t after : Text} (h : endsComment? t = some after) (more : Text) :
    endsComment? (t ++ more) = some (after ++ more) := by
  obtain ⟨rest, rfl, hrest⟩ := endsComment?_eq_some_iff.mp h
  refine endsComment?_eq_some_iff.mpr ⟨rest ++ more, rfl, ?_⟩
  rw [dropWhile_append_of_ne (by simp [hrest]), hrest, List.cons_append]

theorem endsSection?_append {brackets : Nat} {t after : Text}
    (h : endsSection? brackets t = some after) (more : Text) :
    endsSection? brackets (t ++ more) = some (after ++ more) := by
  induction brackets generalizing t with
  | zero =>
    obtain rfl := endsSection?_zero.mp h
    exact endsSection?_zero.mpr rfl
  | succ brackets ih =>
    obtain ⟨rest, rfl, hrest⟩ := endsSection?_succ.mp h
    have hne : rest.dropWhile Text.isBlank ≠ [] := by
      intro hnil
      rw [hnil, endsSection?_nil] at hrest
      cases hrest
    exact endsSection?_succ.mpr ⟨rest ++ more, rfl, by rw [dropWhile_append_of_ne hne, ih hrest]⟩

/-- A section that ends with some brackets holds one that ends with fewer. -/
theorem exists_endsSection?_of_succ {brackets : Nat} {t after : Text}
    (h : endsSection? (brackets + 1) t = some after) :
    ∃ left, left <:+ t ∧ endsSection? brackets left = some after := by
  obtain ⟨rest, rfl, hrest⟩ := endsSection?_succ.mp h
  exact ⟨_, (List.dropWhile_suffix _).trans (List.suffix_cons _ _), hrest⟩

def commentMark : Text := "-->".toList

def sectionMark : Text := "]]>".toList

/-- The mark behind a comment completes no ending that begins in the comment. -/
theorem endsComment?_mark {t : Text} (hne : t ≠ []) (hnone : endsComment? t = none) (more : Text) :
    endsComment? (t ++ (commentMark ++ more)) = none := by
  rw [Option.eq_none_iff_forall_ne_some]
  intro after h
  obtain ⟨rest, hsplit, hrest⟩ := endsComment?_eq_some_iff.mp h
  match t, hne with
  | [c], _ =>
    obtain ⟨-, rfl⟩ : c = '-' ∧ '-' :: '>' :: more = rest := by simpa [commentMark] using hsplit
    have hblank : Text.isBlank '-' = false := by decide
    simp [hblank] at hrest
  | c :: d :: left, _ =>
    obtain ⟨rfl, rfl, rfl⟩ : c = '-' ∧ d = '-' ∧ left ++ (commentMark ++ more) = rest := by
      simpa using hsplit
    by_cases hleft : left.dropWhile Text.isBlank = []
    · rw [dropWhile_append_of_eq hleft] at hrest
      have hblank : Text.isBlank '-' = false := by decide
      simp [commentMark, hblank] at hrest
    · rw [dropWhile_append_of_ne hleft] at hrest
      obtain ⟨e, tail, htail⟩ := List.exists_cons_of_ne_nil hleft
      rw [htail, List.cons_append, List.cons.injEq] at hrest
      obtain ⟨rfl, -⟩ := hrest
      rw [endsComment?_eq_some_iff.mpr ⟨left, rfl, htail⟩] at hnone
      cases hnone

/-- The mark behind a section completes no ending that begins in the section. -/
theorem endsSection?_mark {brackets : Nat} (hbrackets : brackets ≤ 2) {t : Text} (hne : t ≠ [])
    (hnone : endsSection? brackets t = none) (more : Text) :
    endsSection? brackets (t ++ (sectionMark ++ more)) = none := by
  rw [Option.eq_none_iff_forall_ne_some] at hnone ⊢
  induction brackets generalizing t with
  | zero =>
    intro after h
    obtain ⟨c, rest, rfl⟩ := List.exists_cons_of_ne_nil hne
    have hc := endsSection?_zero.mp h
    rw [List.cons_append, List.cons.injEq] at hc
    exact hnone rest (endsSection?_zero.mpr (hc.1 ▸ rfl))
  | succ brackets ih =>
    intro after h
    obtain ⟨rest, hsplit, hrest⟩ := endsSection?_succ.mp h
    obtain ⟨c, left, rfl⟩ := List.exists_cons_of_ne_nil hne
    rw [List.cons_append, List.cons.injEq] at hsplit
    obtain ⟨rfl, rfl⟩ := hsplit
    by_cases hleft : left.dropWhile Text.isBlank = []
    · -- the brackets of the mark are one too many
      rw [dropWhile_append_of_eq hleft] at hrest
      have hblank : Text.isBlank ']' = false := by decide
      have hfew : brackets = 0 ∨ brackets = 1 := by omega
      rcases hfew with rfl | rfl <;> simp [sectionMark, endsSection?, hblank] at hrest
    · rw [dropWhile_append_of_ne hleft] at hrest
      refine ih (by omega) hleft (fun after' h' => ?_) after hrest
      exact hnone after' (endsSection?_succ.mpr ⟨left, rfl, h'⟩)

theorem endsVerbatim?_eq_some_iff {name t after : Text} :
    endsVerbatim? name t = some after ↔
      ∃ rest left, t = '<' :: '/' :: rest ∧
        afterName? name (rest.dropWhile Text.isBlank) = some left ∧
          left.dropWhile Text.isBlank = '>' :: after := by
  constructor
  · intro h
    unfold endsVerbatim? at h
    split at h
    · next rest =>
      split at h
      · next hrest =>
        cases h
        obtain ⟨left, hleft, hdrop⟩ := Option.map_eq_some_iff.mp hrest
        exact ⟨rest, left, rfl, hleft, hdrop⟩
      · cases h
    · cases h
  · rintro ⟨rest, left, rfl, hleft, hdrop⟩
    simp only [endsVerbatim?, hleft, Option.map_some, hdrop]

theorem afterName?_append {name t left : Text} (h : afterName? name t = some left) (more : Text) :
    afterName? name (t ++ more) = some (left ++ more) := by
  induction name generalizing t with
  | nil =>
    obtain rfl := Option.some.inj h
    rfl
  | cons n name ih =>
    cases t with
    | nil => cases h
    | cons c rest =>
      simp only [afterName?, List.cons_append] at h ⊢
      split at h
      · next hagree => rw [if_pos hagree, ih h]
      · cases h

/-- No character of the name is taken for an angle bracket. -/
def AvoidsBracket (name : Text) : Prop :=
  name ≠ [] ∧ ∀ n ∈ name, Pattern.Fold.unicode.agree n.toNat '<'.toNat = false

theorem avoidsBracket_of_isVerbatim {name : Text} (h : verbatimNames.contains name = true) :
    AvoidsBracket name := by
  have hall : ∀ name ∈ verbatimNames, name ≠ [] ∧
      name.all (!Pattern.Fold.unicode.agree ·.toNat '<'.toNat) = true := by decide +kernel
  obtain ⟨hne, havoids⟩ := hall name (by simpa using h)
  exact ⟨hne, fun n hn => by simpa using List.all_eq_true.mp havoids n hn⟩

theorem afterName?_bracket {name t after more : Text}
    (hname : ∀ n ∈ name, Pattern.Fold.unicode.agree n.toNat '<'.toNat = false)
    (h : afterName? name (t ++ '<' :: more) = some after) :
    ∃ left, afterName? name t = some left ∧ after = left ++ '<' :: more := by
  induction name generalizing t with
  | nil => exact ⟨t, rfl, (Option.some.inj h).symm⟩
  | cons n name ih =>
    obtain ⟨hn, hrest⟩ := List.forall_mem_cons.mp hname
    cases t with
    | nil =>
      rw [List.nil_append, afterName?, if_neg (Bool.eq_false_iff.mp hn)] at h
      cases h
    | cons c rest =>
      simp only [afterName?, List.cons_append] at h ⊢
      split at h
      · next hagree =>
        rw [if_pos hagree]
        exact ih hrest h
      · cases h

theorem endsVerbatim?_nil (name : Text) : endsVerbatim? name [] = none := rfl

theorem endsVerbatim?_append {name t after : Text} (hname : name ≠ [])
    (h : endsVerbatim? name t = some after) (more : Text) :
    endsVerbatim? name (t ++ more) = some (after ++ more) := by
  obtain ⟨rest, left, rfl, hleft, hdrop⟩ := endsVerbatim?_eq_some_iff.mp h
  have hne : rest.dropWhile Text.isBlank ≠ [] := by
    intro hnil
    obtain ⟨n, name, rfl⟩ := List.exists_cons_of_ne_nil hname
    rw [hnil] at hleft
    cases hleft
  refine endsVerbatim?_eq_some_iff.mpr ⟨rest ++ more, left ++ more, rfl, ?_, ?_⟩
  · rw [dropWhile_append_of_ne hne, afterName?_append hleft]
  · rw [dropWhile_append_of_ne (by simp [hdrop]), hdrop, List.cons_append]

/-- A tag that begins in verbatim text ends before the next angle bracket or not at all. -/
theorem endsVerbatim?_bracket {name t after more : Text} (hname : AvoidsBracket name) (hne : t ≠ [])
    (h : endsVerbatim? name (t ++ '<' :: more) = some after) :
    ∃ left, endsVerbatim? name t = some left ∧ after = left ++ '<' :: more := by
  obtain ⟨rest, behind, hsplit, hbehind, hdrop⟩ := endsVerbatim?_eq_some_iff.mp h
  have hblank : Text.isBlank '<' = false := by decide
  match t, hne with
  | [c], _ => simp at hsplit
  | c :: d :: inner, _ =>
    obtain ⟨rfl, rfl, rfl⟩ : c = '<' ∧ d = '/' ∧ inner ++ '<' :: more = rest := by
      simpa using hsplit
    have hinner : (inner ++ '<' :: more).dropWhile Text.isBlank =
        inner.dropWhile Text.isBlank ++ '<' :: more := by
      by_cases hnil : inner.dropWhile Text.isBlank = []
      · rw [dropWhile_append_of_eq hnil, hnil, List.dropWhile_cons_of_neg (by simp [hblank]),
          List.nil_append]
      · exact dropWhile_append_of_ne hnil _
    rw [hinner] at hbehind
    obtain ⟨left, hleft, rfl⟩ := afterName?_bracket hname.2 hbehind
    by_cases hnil : left.dropWhile Text.isBlank = []
    · rw [dropWhile_append_of_eq hnil, List.dropWhile_cons_of_neg (by simp [hblank])] at hdrop
      simp at hdrop
    · rw [dropWhile_append_of_ne hnil] at hdrop
      obtain ⟨e, tail, htail⟩ := List.exists_cons_of_ne_nil hnil
      rw [htail, List.cons_append, List.cons.injEq] at hdrop
      obtain ⟨rfl, rfl⟩ := hdrop
      exact ⟨tail, endsVerbatim?_eq_some_iff.mpr ⟨inner, left, rfl, hleft, htail⟩, rfl⟩

/-- A step in verbatim text goes up to the next end tag and ends the text if that is plainly
named. -/
theorem stepVerbatim_of_cut {name content inside after : Text} (reading : Reading)
    (hcut : cutWhere? (endsVerbatim? name) (content ++ ('<' :: inside ++ after)) =
      some (content, after)) :
    stepVerbatim reading name (content ++ ('<' :: inside ++ after)) =
      if (plainEndName? (('<' :: inside).drop 2).dropLast).isSome then
        .more ⟨none, .closing name :: (reading.addText content).events⟩ after
      else .more ((reading.addText content).add (.text ('<' :: inside))) after := by
  have htag : ((content ++ ('<' :: inside ++ after)).drop content.length).take
      ((content ++ ('<' :: inside ++ after)).length - content.length - after.length) =
        '<' :: inside := by
    rw [List.drop_left, List.length_append, Nat.add_sub_cancel_left, List.length_append,
      Nat.add_sub_cancel, List.take_left]
  rw [stepVerbatim, hcut]
  dsimp only
  rw [htag]

theorem exists_afterName?_append {name t left : Text} (h : afterName? name t = some left)
    (hname : ∀ n ∈ name, Pattern.Fold.unicode.agree n.toNat '<'.toNat = false) :
    ∃ used, t = used ++ left ∧ '<' ∉ used := by
  induction name generalizing t with
  | nil => exact ⟨[], Option.some.inj h, List.not_mem_nil⟩
  | cons n name ih =>
    obtain ⟨hn, hrest⟩ := List.forall_mem_cons.mp hname
    cases t with
    | nil => cases h
    | cons c rest =>
      unfold afterName? at h
      split at h
      · next hagree =>
        obtain ⟨used, rfl, hused⟩ := ih h hrest
        refine ⟨c :: used, rfl, List.not_mem_cons_of_ne_of_not_mem ?_ hused⟩
        rintro rfl
        rw [hn] at hagree
        cases hagree
      · cases h

/-- An end tag of verbatim text is one stretch, with no angle bracket inside that opens another. -/
theorem exists_tag_of_endsVerbatim? {name t after : Text} (hname : AvoidsBracket name)
    (h : endsVerbatim? name t = some after) :
    ∃ inside, t = '<' :: inside ++ after ∧ '<' ∉ inside := by
  obtain ⟨rest, left, rfl, hleft, hdrop⟩ := endsVerbatim?_eq_some_iff.mp h
  obtain ⟨used, hused, hnot⟩ := exists_afterName?_append hleft hname.2
  have hblanks {t : Text} : '<' ∉ t.takeWhile Text.isBlank := by
    intro hmem
    have hblank := List.all_eq_true.mp List.all_takeWhile _ hmem
    revert hblank
    decide
  refine ⟨'/' :: (rest.takeWhile Text.isBlank ++ used ++ left.takeWhile Text.isBlank ++ ['>']),
    ?_, by simp [hblanks, hnot]⟩
  calc
    '<' :: '/' :: rest
      = '<' :: '/' :: (rest.takeWhile Text.isBlank ++ (used ++ left)) := by
        rw [← hused, List.takeWhile_append_dropWhile]
    _ = '<' :: '/' :: (rest.takeWhile Text.isBlank ++ (used ++
          (left.takeWhile Text.isBlank ++ '>' :: after))) := by
        rw [← hdrop, List.takeWhile_append_dropWhile]
    _ = _ := by simp

end TitleSieve.Markup.Event
