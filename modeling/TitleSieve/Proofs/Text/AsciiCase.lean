import TitleSieve.Pattern.CharTest
import TitleSieve.Text.Lowercase

/-!
Lowercasing where nothing but the capitals of ASCII changes. In a text of ASCII characters and
ideographs every character has its own lowercase form, whatever stands around it, and that form is
the one of ASCII.
-/

namespace TitleSieve.Text

open Pattern

/-- The characters of ASCII, and the ideographs from the first to the end of their block. -/
def IsPlain (c : Char) : Prop := c.toNat < 128 ∨ (0x4e00 ≤ c.toNat ∧ c.toNat ≤ 0x9fff)

instance (c : Char) : Decidable (IsPlain c) :=
  inferInstanceAs (Decidable (c.toNat < 128 ∨ (0x4e00 ≤ c.toNat ∧ c.toNat ≤ 0x9fff)))

theorem covers_eq_false {run : CaseRun} {code : Nat} (h : code < run.first ∨ run.last < code) :
    run.covers code = false := by
  have hrange : (run.first ≤ code && code ≤ run.last) = false := by
    simp only [Bool.and_eq_false_iff, decide_eq_false_iff_not]
    omega
  rw [CaseRun.covers, hrange, Bool.false_and]

theorem find?_covers_eq_none {runs : List CaseRun} {code : Nat}
    (h : ∀ run ∈ runs, code < run.first ∨ run.last < code) :
    runs.find? (·.covers code) = none := by
  rw [List.find?_eq_none]
  intro run hrun
  rw [covers_eq_false (h run hrun)]
  exact Bool.false_ne_true

/-- The first run of the lowercase table holds the capitals of ASCII, all others lie beyond
ASCII. -/
theorem lowerCode_eq_lowerAscii {code : Nat} (hcode : code < 128) :
    lowerCode code = lowerAscii code := by
  have hbeyond : ∀ run ∈ lowerRuns.tail, 128 ≤ run.first := by decide +kernel
  have hnone : lowerRuns.tail.find? (·.covers code) = none := by
    apply find?_covers_eq_none
    intro run hrun
    have := hbeyond run hrun
    omega
  have hruns : lowerRuns = ⟨0x41, 0x5a, 1, 32⟩ :: lowerRuns.tail := rfl
  unfold lowerCode mapCase lowerAscii
  rw [hruns, List.find?_cons]
  by_cases hcapital : 65 ≤ code ∧ code ≤ 90
  · have hcovers : CaseRun.covers ⟨0x41, 0x5a, 1, 32⟩ code = true := by
      simp [CaseRun.covers, hcapital, Nat.mod_one]
    simp only [hcovers, CaseRun.image]
    rw [if_pos (by simpa using hcapital)]
    omega
  · have houtside : CaseRun.covers ⟨0x41, 0x5a, 1, 32⟩ code = false :=
      covers_eq_false (by change code < 65 ∨ 90 < code; omega)
    simp only [houtside, hnone]
    rw [if_neg (by simpa using hcapital)]

/-- The letters that words are made of: those of ASCII, its digits, and ideographs. -/
def IsWordLetter (c : Char) : Prop :=
  c.isAlphanum = true ∨ (0x4e00 ≤ c.toNat ∧ c.toNat ≤ 0x9fff)

instance (c : Char) : Decidable (IsWordLetter c) :=
  inferInstanceAs (Decidable (c.isAlphanum = true ∨ (0x4e00 ≤ c.toNat ∧ c.toNat ≤ 0x9fff)))

theorem IsWordLetter.code_cases {c : Char} (h : IsWordLetter c) :
    (48 ≤ c.toNat ∧ c.toNat ≤ 57) ∨ (65 ≤ c.toNat ∧ c.toNat ≤ 90) ∨
      (97 ≤ c.toNat ∧ c.toNat ≤ 122) ∨ (0x4e00 ≤ c.toNat ∧ c.toNat ≤ 0x9fff) := by
  rcases h with hascii | hideograph
  · rcases Bool.or_eq_true_iff.mp hascii with hletter | hdigit
    · rcases Bool.or_eq_true_iff.mp hletter with hcapital | hsmall
      · exact .inr (.inl (of_decide_eq_true hcapital))
      · obtain ⟨hfirst, hlast⟩ := Bool.and_eq_true_iff.mp hsmall
        exact .inr (.inr (.inl ⟨of_decide_eq_true hfirst, of_decide_eq_true hlast⟩))
    · obtain ⟨hfirst, hlast⟩ := Bool.and_eq_true_iff.mp hdigit
      exact .inl ⟨of_decide_eq_true hfirst, of_decide_eq_true hlast⟩
  · exact .inr (.inr (.inr hideograph))

theorem IsWordLetter.isPlain {c : Char} (h : IsWordLetter c) : IsPlain c := by
  have := h.code_cases
  unfold IsPlain
  omega

theorem IsWordLetter.not_blank {c : Char} (h : IsWordLetter c) : isBlank c = false := by
  have := h.code_cases
  rw [Bool.eq_false_iff]
  intro hblank
  simp only [isBlank, isBlankCode, Bool.or_eq_true, Bool.and_eq_true, decide_eq_true_eq,
    beq_iff_eq] at hblank
  omega

theorem lowerAscii_lt_iff {code : Nat} : lowerAscii code < 128 ↔ code < 128 := by
  unfold lowerAscii
  simp only [Bool.and_eq_true, decide_eq_true_eq]
  split <;> omega

theorem lowerAscii_lowerAscii (code : Nat) : lowerAscii (lowerAscii code) = lowerAscii code := by
  unfold lowerAscii
  simp only [Bool.and_eq_true, decide_eq_true_eq]
  split
  · rw [if_neg (by omega)]
  · rfl

/-- No run of the lowercase table reaches into the ideographs. -/
theorem lowerCode_ideograph {code : Nat} (hfirst : 0x4e00 ≤ code) (hlast : code ≤ 0x9fff) :
    lowerCode code = code := by
  have hruns : ∀ run ∈ lowerRuns, run.last < 0x4e00 ∨ 0x9fff < run.first := by decide +kernel
  have hnone : lowerRuns.find? (·.covers code) = none := by
    apply find?_covers_eq_none
    intro run hrun
    have := hruns run hrun
    omega
  rw [lowerCode, mapCase, hnone]

theorem toNat_toLower (c : Char) : c.toLower.toNat = lowerAscii c.toNat := by
  have hupper : (c.val ≥ 'A'.val ∧ c.val ≤ 'Z'.val) ↔ 65 ≤ c.toNat ∧ c.toNat ≤ 90 := Iff.rfl
  unfold Char.toLower lowerAscii
  simp only [hupper, Bool.and_eq_true, decide_eq_true_eq]
  by_cases hc : 65 ≤ c.toNat ∧ c.toNat ≤ 90
  · rw [dif_pos hc, if_pos hc]
    have hsmall : c.val.toNat ≤ 90 := hc.2
    calc
      (c.val + 32).toNat = (c.val.toNat + 32) % 4294967296 := UInt32.toNat_add c.val 32
      _ = c.val.toNat + 32 := Nat.mod_eq_of_lt (by omega)
  · rw [dif_neg hc, if_neg hc]

theorem toLower_toLower (c : Char) : c.toLower.toLower = c.toLower := by
  rw [← Char.toNat_inj, toNat_toLower, toNat_toLower, lowerAscii_lowerAscii]

theorem IsPlain.lowerCode_eq {c : Char} (h : IsPlain c) : lowerCode c.toNat = c.toLower.toNat := by
  rw [toNat_toLower]
  rcases h with hascii | ⟨hfirst, hlast⟩
  · exact lowerCode_eq_lowerAscii hascii
  · rw [lowerCode_ideograph hfirst hlast, lowerAscii, if_neg (by simp; omega)]

/-- The lowercase form of a plain character does not depend on where it stands. -/
theorem IsPlain.lowerAt_eq {c : Char} (h : IsPlain c) (before after : Text) :
    lowerAt before c after = [c.toLower] := by
  have hsigma : c ≠ 'Σ' := by
    rintro rfl
    exact absurd h (by decide)
  have hdotted : c ≠ 'İ' := by
    rintro rfl
    exact absurd h (by decide)
  rw [lowerAt, if_neg hsigma, if_neg hdotted, h.lowerCode_eq, Char.ofNat_toNat]

/-- A plain text is lowered character by character, whatever follows it. -/
theorem lowerFrom_append_of_isPlain {t : Text} (h : ∀ c ∈ t, IsPlain c) (before rest : Text) :
    lowerFrom before (t ++ rest) =
      t.map Char.toLower ++ lowerFrom (t.reverse ++ before) rest := by
  induction t generalizing before with
  | nil => rfl
  | cons c left ih =>
    have hleft : ∀ d ∈ left, IsPlain d := fun d hd => h d (List.mem_cons_of_mem _ hd)
    rw [List.cons_append, lowerFrom, (h c List.mem_cons_self).lowerAt_eq, ih hleft]
    simp

theorem lower_of_isPlain {t : Text} (h : ∀ c ∈ t, IsPlain c) : lower t = t.map Char.toLower := by
  have hlower := lowerFrom_append_of_isPlain h [] []
  rwa [List.append_nil, lowerFrom, List.append_nil] at hlower

end TitleSieve.Text
