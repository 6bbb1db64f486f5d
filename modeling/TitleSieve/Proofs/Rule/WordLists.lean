import TitleSieve.Proofs.Pattern.WordFolding
import TitleSieve.Proofs.Pattern.WordReading
import TitleSieve.Proofs.Rule.LonePatterns

/-!
Rules that list words, as literals and as a pattern. The two are decided in different ways: literals
by looking for their lowercase forms in those of the title, the pattern by a search that ignores
case. With words of ASCII letters, digits and ideographs the two come to the same, unless a form of
the title holds a dotless i or a long s, which a search takes for an `i` or an `s`.
-/

namespace TitleSieve

open Text Pattern

def IsWord (word : Text) : Prop := word ≠ [] ∧ ∀ c ∈ word, IsWordLetter c

instance (word : Text) : Decidable (IsWord word) :=
  decidable_of_iff (word ≠ [] ∧ word.all (fun c => decide (IsWordLetter c)) = true)
    (by simp [IsWord])

theorem Forms.mem_toList_of_ok {converter : Converter} {t form : Text} {forms : Forms}
    (h : Forms.of converter t = .ok forms) (hform : form ∈ forms.toList) :
    ∃ variant : Text, form = variant.lower := by
  unfold Forms.of at h
  cases hA : converter.toA t with
  | error fault => simp [hA] at h
  | ok variantA =>
    cases hB : converter.toB t with
    | error fault => simp [hA, hB] at h
    | ok variantB =>
      simp only [hA, hB, Except.ok.injEq] at h
      rw [← h] at hform
      simp only [Forms.toList, List.mem_cons, List.not_mem_nil, or_false] at hform
      rcases hform with rfl | rfl | rfl
      · exact ⟨t, rfl⟩
      · exact ⟨variantA, rfl⟩
      · exact ⟨variantB, rfl⟩

namespace IsWord

variable {word : Text}

theorem lower_eq (h : IsWord word) : word.lower = word.map Char.toLower :=
  lower_of_isPlain fun c hc => (h.2 c hc).isPlain

/-- A search finds a word where its lowercase form stands. -/
theorem readsAsWord_lower (h : IsWord word) : ReadsAsWord word word.lower := by
  rw [h.lower_eq, ReadsAsWord, List.forall₂_map_right_iff, List.forall₂_same]
  exact fun c hc => agree_toLower (h.2 c hc).isPlain

/-- In a lowered text without the two letters a search finds a word nowhere else. -/
theorem lower_eq_of_readsAsWord (h : IsWord word) {part t : Text} (hreads : ReadsAsWord word part)
    (hpart : part <:+: t.lower) (hdotless : 'ı' ∉ t.lower) (hlong : 'ſ' ∉ t.lower) :
    word.lower = part := by
  have hletters : ∀ d ∈ part, IsSettled d.toNat ∧ d ≠ 'ı' ∧ d ≠ 'ſ' := by
    intro d hd
    have hmem : d ∈ t.lower := hpart.subset hd
    refine ⟨isSettled_of_mem_lower hmem, ?_, ?_⟩
    · rintro rfl
      exact hdotless hmem
    · rintro rfl
      exact hlong hmem
  rw [h.lower_eq]
  have hplain : ∀ c ∈ word, IsPlain c := fun c hc => (h.2 c hc).isPlain
  clear h hpart
  induction hreads with
  | nil => rfl
  | cons hagree _ ih =>
    obtain ⟨hc, hrest⟩ := List.forall_mem_cons.mp hplain
    obtain ⟨⟨hsettled, hnotdotless, hnotlong⟩, hmore⟩ := List.forall_mem_cons.mp hletters
    rw [List.map_cons, ih hmore hrest,
      eq_toLower_of_agree hc hsettled hnotdotless hnotlong hagree]

end IsWord

namespace Rule

/-- The rule that asks for one of these words. -/
def ofWords (words : List Text) : Rule := ⟨[⟨joinWith ['|'] words, [.plain words]⟩]⟩

variable {words : List Text}

theorem isWordLetter_or_bar (hwords : ∀ word ∈ words, IsWord word) :
    ∀ c ∈ joinWith ['|'] words, IsWordLetter c ∨ c = '|' := by
  intro c hc
  rcases mem_joinWith hc with hbar | ⟨word, hword, hc⟩
  · exact .inr (List.mem_singleton.mp hbar)
  · exact .inl ((hwords word hword).2 c hc)

theorem joinWith_ne_nil (hne : words ≠ []) (hwords : ∀ word ∈ words, IsWord word) :
    joinWith ['|'] words ≠ [] := by
  obtain ⟨word, rest, rfl⟩ := List.exists_cons_of_ne_nil hne
  have hword : word ≠ [] := (hwords word List.mem_cons_self).1
  cases rest with
  | nil => exact hword
  | cons next more => simp [joinWith, hword]

theorem not_isSeparator (hwords : ∀ word ∈ words, IsWord word) :
    ∀ c ∈ joinWith ['|'] words, isSeparator c = false := by
  intro c hc
  rw [Bool.eq_false_iff]
  intro hsep
  have hcases : c = ';' ∨ c = wideSemicolon := by simpa [isSeparator] using hsep
  rcases hcases with rfl | rfl
  · exact absurd (isWordLetter_or_bar hwords _ hc) (by decide)
  · exact absurd (isWordLetter_or_bar hwords _ hc) (by decide)

theorem trim_of_not_blank {t : Text} (h : ∀ c ∈ t, isBlank c = false) : trim t = t := by
  rw [trim_eq_self_iff]
  exact ⟨fun c hc => h c (List.mem_of_mem_head? hc), fun c hc => h c (List.mem_of_mem_getLast? hc)⟩

/-- Words with bars between them are read as literals, each as it is. -/
theorem read_ofWords (hne : words ≠ []) (hwords : ∀ word ∈ words, IsWord word) :
    Rule.read (joinWith ['|'] words) = .ok ⟨ofWords words, []⟩ := by
  have hblank : ∀ c ∈ joinWith ['|'] words, isBlank c = false := by
    intro c hc
    rcases isWordLetter_or_bar hwords c hc with hletter | rfl
    · exact hletter.not_blank
    · decide
  have hsegments : segments (joinWith ['|'] words) = [joinWith ['|'] words] := by
    apply IsPiece.pieces_eq
    exact ⟨joinWith_ne_nil hne hwords, trim_of_not_blank hblank, not_isSeparator hwords⟩
  have hword : ∀ word ∈ words, IsPiece (· == '|') word := by
    intro word hmem
    refine ⟨(hwords word hmem).1, trim_of_not_blank fun c hc => ?_, fun c hc => ?_⟩
    · exact ((hwords word hmem).2 c hc).not_blank
    · rw [beq_eq_false_iff_ne]
      rintro rfl
      exact absurd ((hwords word hmem).2 _ hc) (by decide)
  have hliterals : literals (joinWith ['|'] words) = words :=
    pieces_joinWith (fun c hc => beq_eq_false_of_isBlank hc (by decide)) rfl rfl words hword
  have hform : patternBody? (joinWith ['|'] words) = none := by
    rw [patternBody?_eq_none_iff]
    intro body _ hslashes
    have hslash : '/' ∈ joinWith ['|'] words := hslashes ▸ List.mem_cons_self
    exact absurd (isWordLetter_or_bar hwords _ hslash) (by decide)
  have hterm : Term.read (joinWith ['|'] words) = .ok ⟨.plain words, []⟩ := by
    rw [Term.read, hform, hliterals]
  simp only [Rule.read, hsegments, Group.readAll, Group.read, hterm, List.append_nil, ofWords]

/-- Words that both conversions leave as they are have one form. -/
theorem forms_of_unchanged {converter : Converter} {word : Text}
    (h : converter.toA word = .ok word ∧ converter.toB word = .ok word) :
    Forms.of converter word = .ok ⟨word.lower, word.lower, word.lower⟩ := by
  simp only [Forms.of, h.1, h.2]

theorem accepts_ofWords {converter : Converter} {title : Text} {forms : Forms}
    (hforms : Forms.of converter title = .ok forms)
    (hsame : ∀ word ∈ words, converter.toA word = .ok word ∧ converter.toB word = .ok word)
    (ledger : Ledger) (hledger : ledger.Faithful converter) :
    ((ofWords words).accepts converter title ledger).1 =
      .ok (words.any fun word => forms.contains word.lower) := by
  have hknown : (ofWords words).Known := known_of_one fun _ => Term.noConfusion
  have hliterals : ∀ literal ∈ (ofWords words).allLiterals, converter.Converts literal := by
    intro literal hmem
    have hmem : literal ∈ words := by simpa [ofWords, allLiterals, Term.literals] using hmem
    exact ⟨_, forms_of_unchanged (hsame literal hmem)⟩
  have hword : ∀ word ∈ words,
      forms.meets (converter.formsOf word) = forms.contains word.lower := by
    intro word hmem
    rw [converter.allows_formsOf word _ (forms_of_unchanged (hsame word hmem))]
    simp [Forms.meets, Forms.toList]
  have hmeets : (ofWords words).meets converter.formsOf forms =
      words.any fun word => forms.contains word.lower := by
    have hany : (ofWords words).meets converter.formsOf forms =
        words.any fun word => forms.meets (converter.formsOf word) := by
      simp [ofWords, Rule.meets, Group.meets, Term.meets, Term.literals]
    rw [hany, Bool.eq_iff_iff, List.any_eq_true, List.any_eq_true]
    exact exists_congr fun word => and_congr_right fun hmem => by rw [hword word hmem]
  rw [accepts_of_converts hknown hforms hliterals ledger hledger, hmeets]

/-- With words that both conversions leave as they are, a title that meets the literals meets the
pattern, and the other way round unless a form of the title holds a dotless i or a long s. -/
theorem pattern_agrees_with_words {converter : Converter} (hne : words ≠ [])
    (hwords : ∀ word ∈ words, IsWord word)
    (hsame : ∀ word ∈ words, converter.toA word = .ok word ∧ converter.toB word = .ok word)
    {title : Text} {forms : Forms} (hforms : Forms.of converter title = .ok forms) :
    ∃ literals pattern : Rule,
      Rule.read (joinWith ['|'] words) = .ok ⟨literals, []⟩ ∧
      Rule.read ('/' :: (joinWith ['|'] words ++ ['/'])) = .ok ⟨pattern, []⟩ ∧
      ∃ byLiterals byPattern : Bool,
        (∀ ledger : Ledger, ledger.Faithful converter →
          (literals.accepts converter title ledger).1 = .ok byLiterals ∧
          (pattern.accepts converter title ledger).1 = .ok byPattern) ∧
        (byLiterals = true → byPattern = true) ∧
        ((∀ form ∈ forms.toList, 'ı' ∉ form ∧ 'ſ' ∉ form) →
          byPattern = true → byLiterals = true) := by
  have hletters : ∀ word ∈ words, ∀ c ∈ word, IsWordLetter c :=
    fun word hword => (hwords word hword).2
  have hsmall : ∀ word ∈ words, ∀ c ∈ word, c.toNat ≤ lastBasicCode := by
    intro word hword c hc
    have := (hletters word hword c hc).code_cases
    unfold lastBasicCode
    omega
  have hspells := spells_combine hne hsmall
  have hbyLiterals : (words.any fun word => forms.contains word.lower) = true ↔
      ∃ word ∈ words, ∃ form ∈ forms.toList, word.lower <:+: form := by
    simp only [List.any_eq_true, Forms.contains, occursIn_iff_infix]
  have hbyPattern : (sequenceOf (combine (words.map spelled))).foundInForms forms = true ↔
      ∃ form ∈ forms.toList, ∃ word ∈ words, ∃ part, part <:+: form ∧ ReadsAsWord word part := by
    simp only [Tree.foundInForms, List.any_eq_true, hspells.foundIn_iff]
  have hread := read_slashed (joinWith_ne_nil hne hwords) (not_isSeparator hwords)
    (Tree.read_words hne hletters)
  refine ⟨_, _, read_ofWords hne hwords, hread, words.any fun word => forms.contains word.lower,
    (sequenceOf (combine (words.map spelled))).foundInForms forms, fun ledger hledger => ?_, ?_, ?_⟩
  · exact ⟨accepts_ofWords hforms hsame ledger hledger, accepts_ofPattern hforms _ _ ledger hledger⟩
  · rw [hbyLiterals, hbyPattern]
    rintro ⟨word, hword, form, hform, hpart⟩
    exact ⟨form, hform, word, hword, word.lower, hpart, (hwords word hword).readsAsWord_lower⟩
  · intro hneither
    rw [hbyLiterals, hbyPattern]
    rintro ⟨form, hform, word, hword, part, hpart, hreads⟩
    obtain ⟨variant, rfl⟩ := Forms.mem_toList_of_ok hforms hform
    obtain ⟨hdotless, hlong⟩ := hneither _ hform
    have hlower : word.lower = part :=
      (hwords word hword).lower_eq_of_readsAsWord hreads hpart hdotless hlong
    exact ⟨word, hword, _, hform, hlower ▸ hpart⟩

/-- Words that share a beginning, and an ideograph; the last two stand in the title. -/
theorem pattern_agrees_with_words_of_three :
    (∀ word ∈ ["HEVC".toList, "HE10".toList, "漫".toList], IsWord word) ∧
      ∃ literals pattern : Rule,
        Rule.read "HEVC|HE10|漫".toList = .ok ⟨literals, []⟩ ∧
        Rule.read "/HEVC|HE10|漫/".toList = .ok ⟨pattern, []⟩ ∧
        literals.alone .identity "動漫 he10".toList = .ok true ∧
        pattern.alone .identity "動漫 he10".toList = .ok true := by
  have hwords : ∀ word ∈ ["HEVC".toList, "HE10".toList, "漫".toList], IsWord word := by
    decide
  obtain ⟨literals, pattern, hliterals, hpattern, byLiterals, byPattern, hboth, hfound, -⟩ :=
    pattern_agrees_with_words (by decide) hwords (fun word _ => ⟨rfl, rfl⟩)
      (rfl : Forms.of .identity "動漫 he10".toList = .ok _)
  obtain ⟨hbyLiterals, hbyPattern⟩ := hboth (.fresh false) (Ledger.faithful_fresh .identity false)
  have hread := hliterals.symm.trans (read_ofWords (by decide) hwords)
  obtain rfl := (Warned.mk.inj (Except.ok.inj hread)).1
  have hmet : (ofWords ["HEVC".toList, "HE10".toList, "漫".toList]).alone .identity
      "動漫 he10".toList = .ok true := by decide +kernel
  have htrue : byLiterals = true := Except.ok.inj (hbyLiterals.symm.trans hmet)
  rw [hfound htrue] at hbyPattern
  exact ⟨hwords, _, pattern, hliterals, hpattern, hmet, hbyPattern⟩

end Rule

end TitleSieve
