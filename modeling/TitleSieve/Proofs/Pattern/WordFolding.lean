import TitleSieve.Proofs.Text.AsciiCase

/-!
How the letters of words are compared ignoring case. A plain character agrees with its own small
letter. In a text that has been lowered it agrees with nothing else, except that an `i` agrees with
the dotless one and an `s` with the long one: no other character of a lowered text has a plain
lowercase form or a plain partner.
-/

namespace TitleSieve.Text

open Pattern

/-- No code point of the run is moved to this one. -/
def CaseRun.Misses (run : CaseRun) (code : Nat) : Prop :=
  (code : Int) < run.first + run.shift ∨ run.last + run.shift < code

instance (run : CaseRun) (code : Nat) : Decidable (run.Misses code) :=
  inferInstanceAs (Decidable (_ ∨ _))

/-- A code point to which nothing is moved is the lowercase form of itself alone. -/
theorem eq_of_lowerCode_eq {code target : Nat} (h : lowerCode code = target)
    (hmisses : ∀ run ∈ lowerRuns, run.covers code = true → run.Misses target) :
    code = target := by
  have hpositive : ∀ run ∈ lowerRuns, (0 : Int) < run.first + run.shift := by decide +kernel
  unfold lowerCode mapCase at h
  cases hfind : lowerRuns.find? (·.covers code) with
  | none =>
    rw [hfind] at h
    exact h
  | some run =>
    rw [hfind] at h
    have hcovers : run.covers code = true := by simpa using List.find?_some hfind
    have hrun : run ∈ lowerRuns := List.mem_of_find?_eq_some hfind
    have hmiss := hmisses run hrun hcovers
    have hmoved := hpositive run hrun
    have himage : ((code : Int) + run.shift).toNat = target := h
    simp only [CaseRun.covers, Bool.and_eq_true, decide_eq_true_eq] at hcovers
    unfold CaseRun.Misses at hmiss
    omega

/-- What a lowered text cannot hold: capitals of ASCII and two other characters that are lowered to
letters of ASCII, the dotted capital I and the sign for kelvin. -/
def IsSettled (code : Nat) : Prop :=
  ¬ (65 ≤ code ∧ code ≤ 90) ∧ code ≠ 0x130 ∧ code ≠ 0x212a

theorem isSettled_lowerCode (code : Nat) : IsSettled (lowerCode code) := by
  have hletters : ∀ run ∈ lowerRuns, (90 : Int) < run.first + run.shift := by decide +kernel
  have hsigns : ∀ run ∈ lowerRuns, run.Misses 0x130 ∧ run.Misses 0x212a := by
    decide +kernel
  refine ⟨fun hcapital => ?_, fun hdotted => ?_, fun hkelvin => ?_⟩
  · have hcode : code = lowerCode code := by
      apply eq_of_lowerCode_eq rfl
      intro run hrun _
      have := hletters run hrun
      left
      omega
    have hlower : lowerCode code = lowerAscii code := lowerCode_eq_lowerAscii (by omega)
    have hup : lowerAscii code = code + 32 := by
      rw [lowerAscii, if_pos (by simp; omega)]
    omega
  · have hcode : code = 0x130 := eq_of_lowerCode_eq hdotted fun run hrun _ => (hsigns run hrun).1
    rw [hcode] at hdotted
    revert hdotted
    decide +kernel
  · have hcode : code = 0x212a := eq_of_lowerCode_eq hkelvin fun run hrun _ => (hsigns run hrun).2
    rw [hcode] at hkelvin
    revert hkelvin
    decide +kernel

theorem mem_lowerFrom {d : Char} {before t : Text} (h : d ∈ lowerFrom before t) :
    ∃ first c after, d ∈ lowerAt first c after := by
  induction t generalizing before with
  | nil => cases h
  | cons c rest ih =>
    rcases List.mem_append.mp h with h | h
    · exact ⟨before, c, rest, h⟩
    · exact ih h

theorem isSettled_of_mem_lower {d : Char} {t : Text} (h : d ∈ lower t) : IsSettled d.toNat := by
  obtain ⟨before, c, after, hd⟩ := mem_lowerFrom h
  have hfixed : d ∈ ['σ', 'ς', 'i', '\u0307'] → IsSettled d.toNat := by
    intro hmem
    simp only [List.mem_cons, List.not_mem_nil, or_false] at hmem
    rcases hmem with rfl | rfl | rfl | rfl <;> exact ⟨by decide, by decide, by decide⟩
  unfold lowerAt at hd
  split at hd
  · apply hfixed
    split at hd <;> simp_all
  · split at hd
    · apply hfixed
      simp_all
    · obtain rfl := List.mem_singleton.mp hd
      by_cases hvalid : (lowerCode c.toNat).isValidChar
      · have hcode : (Char.ofNat (lowerCode c.toNat)).toNat = lowerCode c.toNat := by
          rw [Char.ofNat, dif_pos hvalid]
          rfl
        rw [hcode]
        exact isSettled_lowerCode c.toNat
      · have hcode : (Char.ofNat (lowerCode c.toNat)).toNat = 0 := by
          rw [Char.ofNat, dif_neg hvalid]
          rfl
        rw [hcode]
        exact ⟨by decide, by decide, by decide⟩

/-- A plain code point is moved to by capitals of ASCII and the two other characters only. -/
theorem eq_of_lowerCode_eq_plain {code target : Nat} (hcode : IsSettled code)
    (htarget : target < 128 ∨ (0x4e00 ≤ target ∧ target ≤ 0x9fff))
    (h : lowerCode code = target) : code = target := by
  have hruns : ∀ run ∈ lowerRuns, (run.first = 65 ∧ run.last = 90) ∨
      (run.first = 0x130 ∧ run.last = 0x130) ∨ (run.first = 0x212a ∧ run.last = 0x212a) ∨
      (128 ≤ run.first + run.shift ∧
        (run.last + run.shift < 0x4e00 ∨ 0x9fff < run.first + run.shift)) := by
    decide +kernel
  apply eq_of_lowerCode_eq h
  intro run hrun hcovers
  simp only [CaseRun.covers, Bool.and_eq_true, decide_eq_true_eq] at hcovers
  obtain ⟨hletter, hdotted, hkelvin⟩ := hcode
  have := hruns run hrun
  unfold CaseRun.Misses
  omega

theorem isPlain_toLower {c : Char} (h : IsPlain c) : IsPlain c.toLower := by
  unfold IsPlain at h ⊢
  rw [toNat_toLower, lowerAscii]
  simp only [Bool.and_eq_true, decide_eq_true_eq]
  split <;> omega

end TitleSieve.Text

namespace TitleSieve.Pattern

open Text

/-- Only the dotless i and the long s are partners of plain code points. -/
theorem partner_of_plain {code partner : Nat}
    (hcode : code < 128 ∨ (0x4e00 ≤ code ∧ code ≤ 0x9fff)) (h : partner ∈ partners code) :
    partner = 0x131 ∨ partner = 0x17f := by
  have hentries : ∀ entry ∈ casePartners,
      (128 ≤ entry.1 ∧ (entry.1 < 0x4e00 ∨ 0x9fff < entry.1)) ∨
        ∀ partner ∈ entry.2, partner = 0x131 ∨ partner = 0x17f := by
    decide +kernel
  unfold partners at h
  cases hlookup : casePartners.lookup code with
  | none =>
    rw [hlookup] at h
    cases h
  | some others =>
    rw [hlookup] at h
    obtain ⟨before, after, hentry, -⟩ := List.lookup_eq_some_iff.mp hlookup
    have hmem : (code, others) ∈ casePartners := by
      rw [hentry]
      exact List.mem_append_right _ List.mem_cons_self
    rcases hentries _ hmem with hbeyond | hpartners
    · have hplace : 128 ≤ code ∧ (code < 0x4e00 ∨ 0x9fff < code) := hbeyond
      omega
    · exact hpartners partner h

theorem agree_toLower {c : Char} (h : IsPlain c) :
    Fold.unicode.agree c.toNat c.toLower.toNat = true := by
  have hkeys : lowerCode c.toNat = lowerCode c.toLower.toNat := by
    rw [h.lowerCode_eq, (isPlain_toLower h).lowerCode_eq, toLower_toLower]
  simp [Fold.agree, Fold.key, hkeys]

/-- In a lowered text a plain character agrees with its small letter, and else at most with the
dotless i or the long s. -/
theorem eq_toLower_of_agree {c d : Char} (hc : IsPlain c) (hd : IsSettled d.toNat)
    (hdotless : d ≠ 'ı') (hlong : d ≠ 'ſ') (h : Fold.unicode.agree c.toNat d.toNat = true) :
    d = c.toLower := by
  have hsigns : ∀ run ∈ lowerRuns, run.Misses 0x131 ∧ run.Misses 0x17f := by
    decide +kernel
  have hplain : IsPlain c.toLower := isPlain_toLower hc
  simp only [Fold.agree, Fold.key, hc.lowerCode_eq, beq_self_eq_true, Bool.true_and,
    Bool.or_eq_true, beq_iff_eq, List.contains_iff_mem] at h
  rw [← Char.toNat_inj]
  rcases h with hsame | hpartner
  · exact eq_of_lowerCode_eq_plain hd hplain hsame.symm
  · rcases partner_of_plain hplain hpartner with hcode | hcode
    · have hd' := eq_of_lowerCode_eq hcode fun run hrun _ => (hsigns run hrun).1
      exact absurd (Char.toNat_inj.mp hd') hdotless
    · have hd' := eq_of_lowerCode_eq hcode fun run hrun _ => (hsigns run hrun).2
      exact absurd (Char.toNat_inj.mp hd') hlong

/-- A search does take a dotless i for an `i`. -/
example : Fold.unicode.agree 'i'.toNat 'ı'.toNat = true := by decide +kernel

end TitleSieve.Pattern
