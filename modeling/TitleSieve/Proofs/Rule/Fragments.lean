import TitleSieve.Proofs.Evaluation.Ordering
import TitleSieve.Proofs.Rule.Image
import TitleSieve.Proofs.Text.Lowering

/-!
Rules that are one literal. Such a text is read as the rule that asks for it and for nothing else,
and a title meets the rule if a form of the text stands in a form of the title. A title of which the
text is a part has the lowercase form of the text in its own, unless a capital sigma of the text is
taken for the last letter of a word in the one and not in the other; then the title may be missed.
-/

namespace TitleSieve

open Text

theorem Forms.plain_of_ok {converter : Converter} {t : Text} {forms : Forms}
    (h : Forms.of converter t = .ok forms) : forms.plain = t.lower := by
  unfold Forms.of at h
  cases hA : converter.toA t with
  | error fault => simp [hA] at h
  | ok variantA =>
    cases hB : converter.toB t with
    | error fault => simp [hA, hB] at h
    | ok variantB =>
      simp only [hA, hB, Except.ok.injEq] at h
      rw [← h]

namespace Rule

/-- The text is read as one literal: it is not blank and has no blank at either end, it holds
neither a separator nor a bar, and it does not have the form of a pattern. -/
structure IsLiteral (t : Text) : Prop where
  not_blank : isAllBlank t = false
  trimmed : trim t = t
  no_separator : ∀ c ∈ t, isSeparator c = false
  no_bar : '|' ∉ t
  no_pattern : ∀ body, body ≠ [] → t ≠ '/' :: (body ++ ['/'])

theorem isLiteral_iff {t : Text} :
    IsLiteral t ↔ isAllBlank t = false ∧ trim t = t ∧ t.all (!isSeparator ·) = true ∧ '|' ∉ t ∧
      patternBody? t = none := by
  rw [List.all_eq_true, patternBody?_eq_none_iff]
  simp only [Bool.not_eq_true']
  constructor
  · intro h
    exact ⟨h.not_blank, h.trimmed, h.no_separator, h.no_bar, h.no_pattern⟩
  · rintro ⟨hblank, htrim, hsep, hbar, hpattern⟩
    exact ⟨hblank, htrim, hsep, hbar, hpattern⟩

instance IsLiteral.decidable (t : Text) : Decidable (IsLiteral t) :=
  decidable_of_iff _ isLiteral_iff.symm

def ofLiteral (t : Text) : Rule := ⟨[⟨t, [.plain [t]]⟩]⟩

theorem IsLiteral.isPiece {t : Text} (h : IsLiteral t) {isSeparator : Char → Bool}
    (hsep : ∀ c ∈ t, isSeparator c = false) : IsPiece isSeparator t := by
  have hne : t ≠ [] := by
    rintro rfl
    exact absurd h.not_blank (by decide)
  exact ⟨hne, h.trimmed, hsep⟩

theorem IsLiteral.read_eq {t : Text} (h : IsLiteral t) : Rule.read t = .ok ⟨ofLiteral t, []⟩ := by
  have hsegments : segments t = [t] := (h.isPiece h.no_separator).pieces_eq
  have hbars : ∀ c ∈ t, (c == '|') = false := by
    intro c hc
    rw [beq_eq_false_iff_ne]
    rintro rfl
    exact h.no_bar hc
  have hliterals : literals t = [t] := (h.isPiece hbars).pieces_eq
  have hbody : patternBody? t = none := patternBody?_eq_none_iff.mpr h.no_pattern
  have hterm : Term.read t = .ok ⟨.plain [t], []⟩ := by rw [Term.read, hbody, hliterals]
  simp only [Rule.read, hsegments, Group.readAll, Group.read, hterm, List.append_nil, ofLiteral]

theorem known_ofLiteral (t : Text) : (ofLiteral t).Known := by
  intro group hgroup term hterm kind
  obtain rfl := List.mem_singleton.mp hgroup
  obtain rfl := List.mem_singleton.mp hterm
  exact Term.noConfusion

/-- A title meets a literal if one of the forms of the two is part of one of the other's. -/
theorem meets_ofLiteral_iff (formsOf : Text → Forms) (title : Forms) (t : Text) :
    (ofLiteral t).meets formsOf title = true ↔
      ∃ needle ∈ (formsOf t).toList, ∃ form ∈ title.toList, needle <:+: form := by
  have hmeets : (ofLiteral t).meets formsOf title = title.meets (formsOf t) := by
    simp [ofLiteral, Rule.meets, Group.meets, Term.meets, Term.literals]
  rw [hmeets, Forms.meets_iff]

/-- The text is read as a rule that the title meets, whatever forms are known beforehand. -/
def Finds (converter : Converter) (raw title : Text) : Prop :=
  ∃ rule, Rule.read raw = .ok rule ∧
    ∀ ledger, ledger.Faithful converter → (rule.value.accepts converter title ledger).1 = .ok true

/-- A literal is found as soon as one of its forms is part of one of the title's. -/
theorem IsLiteral.finds {converter : Converter} {t title : Text} (h : IsLiteral t)
    {literal forms : Forms} (hliteral : Forms.of converter t = .ok literal)
    (hforms : Forms.of converter title = .ok forms) {needle form : Text}
    (hneedle : needle ∈ literal.toList) (hform : form ∈ forms.toList) (hpart : needle <:+: form) :
    Finds converter t title := by
  have hliteralOf : converter.formsOf t = literal := converter.allows_formsOf t literal hliteral
  have htitleOf : converter.formsOf title = forms := converter.allows_formsOf title forms hforms
  have hmeets : (ofLiteral t).meets converter.formsOf (converter.formsOf title) = true := by
    rw [meets_ofLiteral_iff, hliteralOf, htitleOf]
    exact ⟨needle, hneedle, form, hform, hpart⟩
  refine ⟨_, h.read_eq, fun ledger hledger => ?_⟩
  have hall : ∀ literal ∈ (ofLiteral t).allLiterals,
      Forms.of converter literal = .ok (converter.formsOf literal) := by
    intro literal hmem
    obtain rfl : literal = t := by simpa [ofLiteral, allLiterals, Term.literals] using hmem
    rw [hliteral, hliteralOf]
  rw [(ofLiteral t).accepts_fst_of_forms title ledger hledger (known_ofLiteral t)
    (by rw [hforms, htitleOf]) hall, hmeets]

/-- A title meets each literal that is a part of it, provided each capital sigma of the literal is
taken alike in the literal and in the title. -/
theorem finds_part {converter : Converter} {before part after : Text} (h : IsLiteral part)
    (hsigmas : SigmasAgree before part after)
    (htitle : converter.Converts (before ++ part ++ after)) (hpart : converter.Converts part) :
    Finds converter part (before ++ part ++ after) := by
  obtain ⟨forms, hforms⟩ := htitle
  obtain ⟨literal, hliteral⟩ := hpart
  have hneedle : part.lower ∈ literal.toList := by
    rw [← Forms.plain_of_ok hliteral]
    exact List.mem_cons_self
  have hform : (before ++ part ++ after).lower ∈ forms.toList := by
    rw [← Forms.plain_of_ok hforms]
    exact List.mem_cons_self
  exact h.finds hliteral hforms hneedle hform hsigmas.infix_lower

/-- A part of two words, each of which a capital sigma ends, in the part as in the title. -/
theorem finds_part_two_words :
    IsLiteral "ΌΣ ΑΣ".toList ∧ SigmasAgree ['Ν'] "ΌΣ ΑΣ".toList ['.'] ∧
      Finds .identity "ΌΣ ΑΣ".toList (['Ν'] ++ "ΌΣ ΑΣ".toList ++ ['.']) := by
  have hliteral : IsLiteral "ΌΣ ΑΣ".toList := by decide
  have hsigmas : SigmasAgree ['Ν'] "ΌΣ ΑΣ".toList ['.'] := by decide +kernel
  exact ⟨hliteral, hsigmas, finds_part hliteral hsigmas ⟨_, rfl⟩ ⟨_, rfl⟩⟩

/-- A title may miss a literal that is a part of it: a capital sigma ends a word in the literal and
not in the title. -/
theorem not_finds_every_part :
    (Rule.read ['Α', 'Σ'] = .ok ⟨ofLiteral ['Α', 'Σ'], []⟩ ∧
      (ofLiteral ['Α', 'Σ']).alone .identity ['Α', 'Σ', 'Α'] = .ok false) ∧
    ¬ ∀ (converter : Converter) (part title : Text), IsLiteral part → part <:+: title →
      converter.Converts title → converter.Converts part → Finds converter part title := by
  have hread : Rule.read ['Α', 'Σ'] = .ok ⟨ofLiteral ['Α', 'Σ'], []⟩ := by decide
  have hmissed : (ofLiteral ['Α', 'Σ']).alone .identity ['Α', 'Σ', 'Α'] = .ok false := by
    decide +kernel
  refine ⟨⟨hread, hmissed⟩, fun hall => ?_⟩
  obtain ⟨rule, hrule, hfound⟩ := hall .identity ['Α', 'Σ'] ['Α', 'Σ', 'Α'] (by decide)
    ⟨[], ['Α'], rfl⟩ ⟨_, rfl⟩ ⟨_, rfl⟩
  obtain rfl : rule = ⟨ofLiteral ['Α', 'Σ'], []⟩ := Except.ok.inj (hrule.symm.trans hread)
  have hmet := hfound (.fresh false) (Ledger.faithful_fresh .identity false)
  rw [Rule.alone] at hmissed
  rw [hmissed] at hmet
  cases hmet

end Rule

end TitleSieve
