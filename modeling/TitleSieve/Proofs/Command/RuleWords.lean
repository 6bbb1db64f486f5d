import TitleSieve.Command.Run

/-!
Command lines that give a rule and nothing else, or a rule and the flag that switches the variants
off. A rule that does not begin with a hyphen is no flag, so such a command line asks for the
lines of the standard input to be filtered by the rule.
-/

namespace TitleSieve.Command

def noVariantsName : Text := "--no-variants".toList

/-- The words ask for lines to be filtered by the rule; the truth value tells whether the variants
are switched off. -/
inductive FiltersBy (rule : Text) : Bool → List Text → Prop where
  | alone : FiltersBy rule false [rule]
  | flagFirst : FiltersBy rule true [noVariantsName, rule]
  | flagLast : FiltersBy rule true [rule, noVariantsName]

/-- No hyphen begins the text. -/
def IsPlain (t : Text) : Prop := t.head? ≠ some '-'

instance (t : Text) : Decidable (IsPlain t) := inferInstanceAs (Decidable (t.head? ≠ some '-'))

theorem isPlain_append_cons {t : Text} (h : IsPlain t) (rest : Text) :
    IsPlain (t ++ ';' :: rest) := by
  cases t with
  | nil => simp [IsPlain]
  | cons c more => exact h

theorem lookup_eq_none_of_isPlain {t : Text} (h : IsPlain t) : flagNames.lookup t = none := by
  have hhyphen : ∀ entry ∈ flagNames, entry.1.head? = some '-' := by decide
  rw [List.lookup_eq_none_iff]
  intro entry hentry
  rw [bne_iff_ne]
  rintro rfl
  exact h (hhyphen entry hentry)

theorem readWord_of_isPlain {t : Text} (h : IsPlain t) : readWord t = .ok (.plain t) := by
  unfold readWord
  rw [lookup_eq_none_of_isPlain h]
  simp only
  split
  · exact absurd rfl h
  · rfl

theorem readWord_noVariantsName : readWord noVariantsName = .ok (.flag .noVariants false none) := by
  have hlookup : flagNames.lookup noVariantsName = some .noVariants := by decide
  unfold readWord
  rw [hlookup]
  rfl

theorem IsPlain.ne_separator {t : Text} (h : IsPlain t) : t ≠ ['-', '-'] := by
  rintro rfl
  exact h rfl

theorem cutWords_of_forall {words : List Text} (h : ∀ word ∈ words, word ≠ ['-', '-']) :
    Plan.cutWords words = (words, none) := by
  induction words with
  | nil => rfl
  | cons word rest ih =>
    rw [Plan.cutWords, if_neg (h word List.mem_cons_self),
      ih fun other hother => h other (List.mem_cons_of_mem _ hother)]

/-- Without the separator every word may be a flag. -/
theorem ofCommandLine_of_readWords {words : List Text} {read : List Word}
    (h : ∀ word ∈ words, word ≠ ['-', '-']) (hread : Plan.readWords words = .ok read) :
    Plan.ofCommandLine words = Plan.ofWords none false false [] read := by
  simp only [Plan.ofCommandLine, cutWords_of_forall h, hread]

theorem optionsOf_of_filtersBy (world : World) {rule : Text} {noVariants : Bool} {words : List Text}
    (h : FiltersBy rule noVariants words) (hplain : IsPlain rule) :
    optionsOf world (.ofCommandLine words) = .ok ⟨rule, none, false, false, noVariants⟩ := by
  have hrule := readWord_of_isPlain hplain
  have hflag := readWord_noVariantsName
  have hseparator : ∀ word ∈ words, word ≠ ['-', '-'] := by
    have hname : noVariantsName ≠ ['-', '-'] := by decide
    cases h <;> simp [hplain.ne_separator, hname]
  cases h with
  | alone =>
    have hread : Plan.readWords [rule] = .ok [.plain rule] := by
      simp [Plan.readWords, hrule, Except.map]
    rw [ofCommandLine_of_readWords hseparator hread]
    rfl
  | flagFirst =>
    have hread : Plan.readWords [noVariantsName, rule] =
        .ok [.flag .noVariants false none, .plain rule] := by
      simp [Plan.readWords, hrule, hflag, Except.map]
    rw [ofCommandLine_of_readWords hseparator hread]
    rfl
  | flagLast =>
    have hread : Plan.readWords [rule, noVariantsName] =
        .ok [.plain rule, .flag .noVariants false none] := by
      simp [Plan.readWords, hrule, hflag, Except.map]
    rw [ofCommandLine_of_readWords hseparator hread]
    rfl

end TitleSieve.Command
