import Mathlib.Data.Bool.AllAny
import TitleSieve.Proofs.Pattern.WordFolding

/-!
What a lowered text consists of. No run of the lowercase table reaches a code point to which another
one leads, so lowering a second time changes nothing. What lowering puts in place of a character is
that character, a letter of ASCII or a character beyond ASCII that is no blank; so no mark of ASCII
and no blank arises from it.
-/

namespace TitleSieve.Text

/-- What the run moves lands before, behind or between the code points that the other run moves. -/
def CaseRun.avoids (run other : CaseRun) : Bool :=
  Nat.blt (run.image run.last) other.first || Nat.blt other.last (run.image run.first) ||
    (Nat.beq other.step 2 && (Nat.beq run.step 2 || Nat.beq run.first run.last) &&
      Nat.beq ((run.image run.first + other.first) % 2) 1)

theorem CaseRun.not_covers_image {run other : CaseRun} (h : run.avoids other = true)
    (hpositive : (0 : Int) < run.first + run.shift) {code : Nat} (hcode : run.covers code = true) :
    other.covers (run.image code) = false := by
  rw [Bool.eq_false_iff]
  intro hcovers
  simp only [CaseRun.covers, Bool.and_eq_true, decide_eq_true_eq, beq_iff_eq] at hcode hcovers
  simp only [CaseRun.avoids, Bool.or_eq_true, Bool.and_eq_true, Nat.blt_eq] at h
  obtain ⟨⟨hfirst, hlast⟩, hgrid⟩ := hcode
  obtain ⟨⟨hfrom, hto⟩, hother⟩ := hcovers
  have himage (n : Nat) (hn : run.first ≤ n) : (run.image n : Int) = n + run.shift := by
    rw [CaseRun.image]
    omega
  have hcode := himage code hfirst
  have hends := himage run.last (by omega)
  have hstarts := himage run.first (by omega)
  rcases h with (hbefore | hbehind) | ⟨⟨htwo, hstep⟩, hodd⟩
  · omega
  · omega
  · rw [Nat.eq_of_beq_eq_true htwo] at hother
    have hodd := Nat.eq_of_beq_eq_true hodd
    rcases hstep with hstep | hlone
    · rw [Nat.eq_of_beq_eq_true hstep] at hgrid
      omega
    · have hlone := Nat.eq_of_beq_eq_true hlone
      omega

/-- A code point is its own lowercase form, or some run moves it. -/
theorem lowerCode_eq_self_or_image (code : Nat) :
    lowerCode code = code ∨
      ∃ run ∈ lowerRuns, run.covers code = true ∧ lowerCode code = run.image code := by
  unfold lowerCode mapCase
  cases hfind : lowerRuns.find? (·.covers code) with
  | none => exact .inl rfl
  | some run =>
    exact .inr ⟨run, List.mem_of_find?_eq_some hfind, by simpa using List.find?_some hfind, rfl⟩

/-- Lowering a code point twice is lowering it once. -/
theorem lowerCode_lowerCode (code : Nat) : lowerCode (lowerCode code) = lowerCode code := by
  have havoids : (lowerRuns.all fun run => lowerRuns.all run.avoids) = true := by decide +kernel
  have hpositive : ∀ run ∈ lowerRuns, (0 : Int) < run.first + run.shift := by decide +kernel
  rcases lowerCode_eq_self_or_image code with hself | ⟨run, hrun, hcovers, himage⟩
  · rw [hself, hself]
  · have hnone : lowerRuns.find? (·.covers (run.image code)) = none := by
      rw [List.find?_eq_none]
      intro other hother
      have h := List.all_eq_true.mp (List.all_eq_true.mp havoids run hrun) other hother
      rw [CaseRun.not_covers_image h (hpositive run hrun) hcovers]
      exact Bool.false_ne_true
    rw [himage, lowerCode, mapCase, hnone]

def blankCodes : List Nat :=
  [9, 10, 11, 12, 13, 28, 29, 30, 31, 32, 0x85, 0xa0, 0x1680, 0x2000, 0x2001, 0x2002, 0x2003,
   0x2004, 0x2005, 0x2006, 0x2007, 0x2008, 0x2009, 0x200a, 0x2028, 0x2029, 0x202f, 0x205f, 0x3000]

theorem mem_blankCodes {code : Nat} (h : isBlankCode code = true) : code ∈ blankCodes := by
  simp only [isBlankCode, Bool.or_eq_true, Bool.and_eq_true, decide_eq_true_eq, beq_iff_eq] at h
  simp only [blankCodes, List.mem_cons, List.not_mem_nil, or_false]
  omega

/-- A letter of ASCII that is no capital, or a character beyond ASCII that is no blank. -/
def IsLetterOrBeyond (code : Nat) : Prop :=
  ((97 ≤ code ∧ code ≤ 122) ∨ 128 ≤ code) ∧ isBlankCode code = false

instance (code : Nat) : Decidable (IsLetterOrBeyond code) := inferInstanceAs (Decidable (_ ∧ _))

theorem lowerCode_eq_self_or_letter (code : Nat) :
    lowerCode code = code ∨ IsLetterOrBeyond (lowerCode code) := by
  have hruns : ∀ run ∈ lowerRuns,
      ((97 : Int) ≤ run.first + run.shift ∧ run.last + run.shift ≤ 122) ∨
        128 ≤ run.first + run.shift := by
    decide +kernel
  have hblanks : ∀ target ∈ blankCodes, ∀ run ∈ lowerRuns, run.Misses target := by decide +kernel
  rcases lowerCode_eq_self_or_image code with hself | ⟨run, hrun, hcovers, himage⟩
  · exact .inl hself
  by_cases hblank : isBlankCode (lowerCode code) = true
  · have hmisses := hblanks _ (mem_blankCodes hblank)
    exact .inl (eq_of_lowerCode_eq rfl fun run hrun _ => hmisses run hrun).symm
  · refine .inr ⟨?_, by simpa using hblank⟩
    have hplace := hruns run hrun
    simp only [CaseRun.covers, Bool.and_eq_true, decide_eq_true_eq] at hcovers
    rw [himage, CaseRun.image]
    omega

/-- The lowercase form of a character is a character. -/
theorem toNat_ofNat_lowerCode (c : Char) :
    (Char.ofNat (lowerCode c.toNat)).toNat = lowerCode c.toNat := by
  have hruns : ∀ run ∈ lowerRuns, run.last + run.shift < 0xd800 ∨
      ((0xdfff : Int) < run.first + run.shift ∧ run.last + run.shift < 0x110000) := by
    decide +kernel
  have hvalid : (lowerCode c.toNat).isValidChar := by
    rcases lowerCode_eq_self_or_image c.toNat with hself | ⟨run, hrun, hcovers, himage⟩
    · rw [hself]
      exact c.valid
    · have hplace := hruns run hrun
      simp only [CaseRun.covers, Bool.and_eq_true, decide_eq_true_eq] at hcovers
      rw [himage, CaseRun.image, Nat.isValidChar]
      omega
  rw [Char.ofNat, dif_pos hvalid]
  rfl

/-- What lowering puts in place of a character is that character, or a letter or what lies
beyond. -/
theorem eq_or_letter_of_mem_lowerAt {before after : Text} {c d : Char}
    (h : d ∈ lowerAt before c after) : d = c ∨ IsLetterOrBeyond d.toNat := by
  have hfixed : ∀ d ∈ ['σ', 'ς', 'i', '\u0307'], IsLetterOrBeyond d.toNat :=
    List.all_iff_forall_prop.mp (by decide)
  unfold lowerAt at h
  split at h
  · refine .inr (hfixed d ?_)
    split at h <;> simp_all
  · split at h
    · refine .inr (hfixed d ?_)
      simp_all
    · obtain rfl := List.mem_singleton.mp h
      rw [toNat_ofNat_lowerCode]
      rcases lowerCode_eq_self_or_letter c.toNat with hself | hletter
      · exact .inl (by rw [hself, Char.ofNat_toNat])
      · exact .inr hletter

theorem eq_or_letter_of_mem_lowerFrom {before t : Text} {d : Char} (h : d ∈ lowerFrom before t) :
    d ∈ t ∨ IsLetterOrBeyond d.toNat := by
  induction t generalizing before with
  | nil => exact .inl h
  | cons c rest ih =>
    rcases List.mem_append.mp h with hhead | hrest
    · rcases eq_or_letter_of_mem_lowerAt hhead with rfl | hletter
      · exact .inl List.mem_cons_self
      · exact .inr hletter
    · exact (ih hrest).imp_left (List.mem_cons_of_mem c)

/-- The first character of a lowered text comes from the first one of the text, and what follows
it from what follows that one. -/
theorem exists_lower_cons (c : Char) (rest : Text) :
    ∃ first left, lower (c :: rest) = first :: left ∧
      (first = c ∨ IsLetterOrBeyond first.toNat) ∧
        ∀ d ∈ left, d ∈ rest ∨ IsLetterOrBeyond d.toNat := by
  have hdot : IsLetterOrBeyond '\u0307'.toNat := by decide
  have hhead : ∃ first tail, lowerAt [] c rest = first :: tail ∧
      ∀ d ∈ tail, IsLetterOrBeyond d.toNat := by
    unfold lowerAt
    split
    · exact ⟨_, [], rfl, by simp⟩
    · split
      · exact ⟨'i', ['\u0307'], rfl, fun d hd => List.mem_singleton.mp hd ▸ hdot⟩
      · exact ⟨_, [], rfl, by simp⟩
  obtain ⟨first, tail, heq, htail⟩ := hhead
  refine ⟨first, tail ++ lowerFrom [c] rest, ?_, ?_, fun d hd => ?_⟩
  · rw [lower, lowerFrom, heq, List.cons_append]
  · exact eq_or_letter_of_mem_lowerAt (heq ▸ List.mem_cons_self)
  · rcases List.mem_append.mp hd with hd | hd
    · exact .inr (htail d hd)
    · exact eq_or_letter_of_mem_lowerFrom hd

/-- A character that lowering puts somewhere is its own lowercase form everywhere. -/
theorem lowerAt_of_mem_lower {t : Text} {d : Char} (h : d ∈ lower t) (before after : Text) :
    lowerAt before d after = [d] := by
  obtain ⟨first, c, rest, hd⟩ := mem_lowerFrom h
  have hfixed : ∀ d ∈ ['σ', 'ς', 'i', '\u0307'], lowerCode d.toNat = d.toNat :=
    List.all_iff_forall_prop.mp (by decide +kernel)
  have hcode : lowerCode d.toNat = d.toNat := by
    unfold lowerAt at hd
    split at hd
    · refine hfixed d ?_
      split at hd <;> simp_all
    · split at hd
      · refine hfixed d ?_
        simp_all
      · obtain rfl := List.mem_singleton.mp hd
        rw [toNat_ofNat_lowerCode, lowerCode_lowerCode]
  have hmoved : lowerCode 'Σ'.toNat ≠ 'Σ'.toNat ∧ lowerCode 'İ'.toNat ≠ 'İ'.toNat := by
    decide +kernel
  have hsigma : d ≠ 'Σ' := fun hd => hmoved.1 (hd ▸ hcode)
  have hdotted : d ≠ 'İ' := fun hd => hmoved.2 (hd ▸ hcode)
  rw [lowerAt, if_neg hsigma, if_neg hdotted, hcode, Char.ofNat_toNat]

/-- Lowering a text twice is lowering it once. -/
theorem lower_lower (t : Text) : lower (lower t) = lower t := by
  have hfrom : ∀ (part before : Text), (∀ d ∈ part, d ∈ lower t) →
      lowerFrom before part = part := by
    intro part
    induction part with
    | nil => exact fun _ _ => rfl
    | cons d rest ih =>
      intro before hall
      rw [lowerFrom, lowerAt_of_mem_lower (hall d List.mem_cons_self),
        ih (d :: before) fun e he => hall e (List.mem_cons_of_mem d he), List.singleton_append]
  exact hfrom (lower t) [] fun _ h => h

end TitleSieve.Text
