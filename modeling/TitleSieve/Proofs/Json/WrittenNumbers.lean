import Mathlib.Data.List.DropRight
import TitleSieve.Proofs.Json.Numerals

/-!
Written numbers are numerals. Whole numbers are written in decimal digits. The digits of a positive
double are never all zero, since nothing as small as zero lies in the interval that is searched, so
they begin with another digit once the zeros behind them are dropped. Wherever the point is put, or
a power of ten is written in its place, the result is a numeral that is not whole.
-/

namespace TitleSieve.Json

open Number

theorem isDigits_toDigits (n : Nat) : IsDigits (Nat.toDigits 10 n) :=
  ⟨Nat.toDigits_ne_nil, fun _ hc => Nat.isDigit_of_mem_toDigits (by decide) (by decide) hc⟩

theorem head?_toDigits {n : Nat} (h : n ≠ 0) : (Nat.toDigits 10 n).head? ≠ some '0' := by
  induction n using Nat.strongRecOn with
  | ind n ih =>
    by_cases hsmall : n < 10
    · have hdigit : ∀ m < 10, m ≠ 0 → m.digitChar ≠ '0' := by decide
      rw [Nat.toDigits_of_lt_base hsmall]
      simpa using hdigit n hsmall h
    · have hrest := ih (n / 10) (by omega) (by omega)
      rw [Nat.toDigits_of_base_le (by decide) (by omega),
        List.head?_append_of_ne_nil _ Nat.toDigits_ne_nil]
      exact hrest

/-- The digits of a number, without needless zeros. -/
theorem whole_toDigits {n : Nat} (h : (Nat.toDigits 10 n).head? = some '0') :
    Nat.toDigits 10 n = ['0'] := by
  by_cases hn : n = 0
  · rw [hn]
    rfl
  · exact absurd h (head?_toDigits hn)

/-- Digits that begin with another digit than zero. -/
structure IsSignificant (digits : Text) : Prop where
  isDigits : IsDigits digits
  head : digits.head? ≠ some '0'

theorem isSignificant_dropTrailingZeros {digits : Text} (h : IsSignificant digits) :
    IsSignificant (dropTrailingZeros digits) := by
  have hprefix : dropTrailingZeros digits <+: digits :=
    List.rdropWhile_prefix (fun c => c == '0') digits
  have hne : dropTrailingZeros digits ≠ [] := by
    intro hnil
    have hall := List.rdropWhile_eq_nil_iff.mp hnil
    obtain ⟨c, rest, rfl⟩ := List.exists_cons_of_ne_nil h.isDigits.1
    have hzero : c = '0' := by simpa using hall c List.mem_cons_self
    exact h.head (by rw [hzero, List.head?_cons])
  obtain ⟨tail, htail⟩ := hprefix
  refine ⟨⟨hne, fun c hc => h.isDigits.2 c ?_⟩, ?_⟩
  · rw [← htail]
    exact List.mem_append_left tail hc
  · have hhead := h.head
    rwa [← htail, List.head?_append_of_ne_nil _ hne] at hhead

theorem scaleUp_pos {base : Nat} (h : 0 < base) (power : Int) : 0 < scaleUp base power :=
  Nat.pow_pos h

theorem ne_zero_of_admits {i : Interval} (hlow : 0 < i.low) {spacing unit n : Nat}
    (hunit : 0 < unit) (h : i.admits spacing unit n = true) : n ≠ 0 := by
  rintro rfl
  have hpos : 0 < i.low * unit := Nat.mul_pos hlow hunit
  unfold Interval.admits at h
  split at h
  · simp only [Nat.zero_mul, Bool.and_eq_true, decide_eq_true_eq] at h
    omega
  · simp at h

/-- Of two neighbours on the grid one is chosen, the lower one only if it lies inside. -/
theorem onGrid_cases {i : Interval} {power : Int} {n : Nat} (h : i.onGrid power = some n) :
    i.admits (scaleUp 10 power * scaleUp 2 (-i.exponent))
      (scaleUp 2 i.exponent * scaleUp 10 (-power)) n = true ∨ ∃ down, n = down + 1 := by
  unfold Interval.onGrid at h
  simp only at h
  split at h
  · rename_i hdown _
    obtain rfl := Option.some.inj h
    exact .inl hdown
  · exact .inr ⟨_, (Option.some.inj h).symm⟩
  · cases h
  · rename_i hdown _
    split at h
    · obtain rfl := Option.some.inj h
      exact .inl hdown
    split at h
    · exact .inr ⟨_, (Option.some.inj h).symm⟩
    split at h
    · obtain rfl := Option.some.inj h
      exact .inl hdown
    · exact .inr ⟨_, (Option.some.inj h).symm⟩

theorem ne_zero_of_onGrid {i : Interval} (hlow : 0 < i.low) {power : Int} {n : Nat}
    (h : i.onGrid power = some n) : n ≠ 0 := by
  have hunit : 0 < scaleUp 2 i.exponent * scaleUp 10 (-power) :=
    Nat.mul_pos (scaleUp_pos (by decide) _) (scaleUp_pos (by decide) _)
  rcases onGrid_cases h with hadmits | ⟨down, rfl⟩
  · exact ne_zero_of_admits hlow hunit hadmits
  · exact Nat.succ_ne_zero down

theorem searchDigits_cases {i : Interval} (hlow : 0 < i.low) (leading : Int) (left count : Nat) :
    searchDigits i leading left count = (0, 0) ∨ (searchDigits i leading left count).1 ≠ 0 := by
  induction left generalizing count with
  | zero => exact .inl rfl
  | succ left ih =>
    rw [searchDigits]
    cases hgrid : i.onGrid (leading - count + 1) with
    | none => exact ih (count + 1)
    | some digits => exact .inr (ne_zero_of_onGrid hlow hgrid)

/-- The text is what is written behind the sign of a numeral that is not whole. -/
def IsFractional (t : Text) : Prop :=
  ∃ numeral : Numeral, numeral.Valid ∧ numeral.isWhole = false ∧ t = numeral.writeUnsigned

theorem isDigits_append {first second : Text} (hfirst : IsDigits first)
    (hsecond : ∀ c ∈ second, c.isDigit = true) : IsDigits (first ++ second) := by
  refine ⟨List.append_ne_nil_of_left_ne_nil hfirst.1 second, fun c hc => ?_⟩
  rcases List.mem_append.mp hc with hc | hc
  · exact hfirst.2 c hc
  · exact hsecond c hc

theorem isDigit_of_mem_zeros {c : Char} {n : Nat} (h : c ∈ zeros n) : c.isDigit = true := by
  rw [List.eq_of_mem_replicate h]
  decide

/-- Digits in front of a point and behind it. -/
theorem isFractional_of_point {whole fraction : Text} (hwhole : IsDigits whole)
    (hzero : whole.head? = some '0' → whole = ['0']) (hfraction : IsDigits fraction) :
    IsFractional (whole ++ '.' :: fraction) := by
  obtain ⟨hne, hdigits⟩ := hfraction
  have hempty : fraction.isEmpty = false := by simpa using hne
  refine ⟨⟨false, whole, fraction, none⟩, ⟨hwhole, hzero, hdigits, fun _ hp => nomatch hp⟩, ?_, ?_⟩
  · simp [Numeral.isWhole, hempty]
  · simp [Numeral.writeUnsigned, Numeral.writeFraction, Numeral.writePower, hempty]

/-- Digits with a power of ten behind them. -/
theorem isFractional_of_power {d : Char} {rest power : Text} (negative : Bool)
    (hdigits : IsDigits (d :: rest)) (hpower : IsDigits power) :
    IsFractional (d :: (Numeral.writeFraction rest ++
      (['e', if negative then '-' else '+'] ++ power))) := by
  have hwhole : IsDigits [d] := by
    refine ⟨List.cons_ne_nil d [], fun c hc => ?_⟩
    rw [List.mem_singleton.mp hc]
    exact hdigits.2 d List.mem_cons_self
  have hvalid : Numeral.Valid ⟨false, [d], rest, some (negative, power)⟩ := by
    refine ⟨hwhole, fun hzero => ?_, fun c hc => hdigits.2 c (List.mem_cons_of_mem d hc), ?_⟩
    · rw [Option.some.inj hzero]
    · rintro p hp
      obtain rfl := Option.some.inj hp
      exact hpower
  exact ⟨_, hvalid, by simp [Numeral.isWhole], rfl⟩

/-- Laid out with a point or a power of ten, significant digits are a numeral that is not whole. -/
theorem isFractional_layOut {digits : Text} (h : IsSignificant digits) (point : Int) :
    IsFractional (layOut digits point) := by
  have hdigits := h.isDigits
  have hsingle : IsDigits ['0'] := ⟨by decide, by simp⟩
  unfold layOut
  dsimp only
  split
  · split
    · -- The point stands in front of the digits.
      have hfraction : IsDigits (zeros (-point).toNat ++ digits) := by
        refine ⟨List.append_ne_nil_of_right_ne_nil _ hdigits.1, fun c hc => ?_⟩
        rcases List.mem_append.mp hc with hc | hc
        · exact isDigit_of_mem_zeros hc
        · exact hdigits.2 c hc
      exact isFractional_of_point hsingle (fun _ => rfl) hfraction
    · rename_i hinside hpositive
      split
      · -- The point stands behind the digits.
        have hwhole : IsDigits (digits ++ zeros (point - digits.length).toNat) :=
          isDigits_append hdigits fun c hc => isDigit_of_mem_zeros hc
        have hhead : (digits ++ zeros (point - digits.length).toNat).head? ≠ some '0' := by
          rw [List.head?_append_of_ne_nil _ hdigits.1]
          exact h.head
        have hfractional := isFractional_of_point hwhole (fun hzero => absurd hzero hhead) hsingle
        simpa using hfractional
      · -- The point stands among the digits.
        rename_i hshort
        obtain ⟨n, hn⟩ : ∃ n : Nat, point.toNat = n + 1 := ⟨point.toNat - 1, by omega⟩
        have hlength : n + 1 < digits.length := by omega
        obtain ⟨c, rest, rfl⟩ := List.exists_cons_of_ne_nil hdigits.1
        have hwhole : IsDigits ((c :: rest).take (n + 1)) :=
          ⟨by simp, fun d hd => hdigits.2 d (List.mem_of_mem_take hd)⟩
        have hfraction : IsDigits ((c :: rest).drop (n + 1)) := by
          refine ⟨?_, fun d hd => hdigits.2 d (List.mem_of_mem_drop hd)⟩
          rw [Ne, List.drop_eq_nil_iff]
          omega
        have hzero : ((c :: rest).take (n + 1)).head? ≠ some '0' := by
          have hhead := h.head
          simpa using hhead
        rw [hn]
        exact isFractional_of_point hwhole (fun hc => absurd hc hzero) hfraction
  · obtain ⟨d, rest, rfl⟩ := List.exists_cons_of_ne_nil hdigits.1
    have hdigit := isDigits_toDigits (point - 1).natAbs
    have hpower : IsDigits (if (Nat.toDigits 10 (point - 1).natAbs).length < 2
        then '0' :: Nat.toDigits 10 (point - 1).natAbs
        else Nat.toDigits 10 (point - 1).natAbs) := by
      split
      · exact isDigits_append hsingle hdigit.2
      · exact hdigit
    have hfractional := isFractional_of_power (decide (point - 1 < 0)) hdigits hpower
    cases rest with
    | nil => simpa [Numeral.writeFraction] using hfractional
    | cons e more => simpa [Numeral.writeFraction] using hfractional

theorem intervalOf_low_pos {significand : Nat} (h : significand ≠ 0) (exponent : Int) :
    0 < (intervalOf significand exponent).low := by
  unfold intervalOf
  dsimp only
  split <;> omega

/-- A finite double is written as a numeral that is not whole. -/
theorem exists_numeral_render (negative : Bool) (significand : Nat) (exponent : Int) :
    ∃ numeral : Numeral, numeral.Valid ∧ numeral.isWhole = false ∧
      (Double.finite negative significand exponent).render = numeral.write := by
  have hsigned : ∀ t, IsFractional t → ∃ numeral : Numeral, numeral.Valid ∧
      numeral.isWhole = false ∧ Numeral.writeSign negative ++ t = numeral.write := by
    rintro t ⟨numeral, hvalid, hwhole, rfl⟩
    exact ⟨{ numeral with negative := negative }, ⟨hvalid.whole, hvalid.no_zero, hvalid.fraction,
      hvalid.power⟩, hwhole, rfl⟩
  have hsingle : IsDigits ['0'] := ⟨by decide, by simp⟩
  have hzero : IsFractional ['0', '.', '0'] :=
    isFractional_of_point hsingle (fun _ => rfl) hsingle
  unfold Double.render
  dsimp only
  split
  · exact hsigned _ hzero
  · rename_i hsignificand
    have hlow := intervalOf_low_pos hsignificand exponent
    have hcases := searchDigits_cases hlow (leadingPower significand exponent) 18 1
    rw [← shortestDigits] at hcases
    rcases hcases with hnone | hdigits
    · rw [hnone]
      exact hsigned _ hzero
    · have hsignificant : IsSignificant (Nat.toDigits 10 (shortestDigits significand exponent).1) :=
        ⟨isDigits_toDigits _, head?_toDigits hdigits⟩
      exact hsigned _ (isFractional_layOut (isSignificant_dropTrailingZeros hsignificant) _)

theorem natOf_toDigits (n : Nat) : natOf (Nat.toDigits 10 n) = n := by
  have hfold : natOf (Nat.toDigits 10 n) = Nat.ofDigitChars 10 (Nat.toDigits 10 n) 0 := by
    simp only [natOf, Nat.ofDigitChars, Nat.mul_comm]
    rfl
  rw [hfold, Nat.ofDigitChars_ten_toDigits]

def Numeral.ofInt (n : Int) : Numeral := ⟨decide (n < 0), Nat.toDigits 10 n.natAbs, [], none⟩

theorem Numeral.valid_ofInt (n : Int) : (Numeral.ofInt n).Valid :=
  ⟨isDigits_toDigits _, whole_toDigits, fun _ hc => (nomatch hc), fun _ hp => (nomatch hp)⟩

theorem Numeral.value_ofInt (n : Int) : (Numeral.ofInt n).value = .int n := by
  have hvalue : (if decide (n < 0) then -((n.natAbs : Nat) : Int) else (n.natAbs : Nat)) = n := by
    by_cases hn : n < 0
    · simp only [hn, decide_true, if_true]
      omega
    · simp only [hn, decide_false, Bool.false_eq_true, if_false]
      omega
  simp only [Numeral.value, Numeral.isWhole, Numeral.ofInt, List.isEmpty_nil, Option.isNone_none,
    Bool.and_self, if_true, natOf_toDigits, hvalue]

theorem writeInt_eq (n : Int) : writeInt n = (Numeral.ofInt n).write := by
  rw [writeInt, Int.toString_eq_repr, Int.repr_eq_if]
  by_cases hn : 0 ≤ n
  · have hnonneg : ¬ n < 0 := Int.not_lt.mpr hn
    have habs : n.natAbs = n.toNat := by omega
    simp [hn, hnonneg, habs, Numeral.write, Numeral.writeSign, Numeral.writeUnsigned,
      Numeral.writeFraction, Numeral.writePower, Numeral.ofInt, Nat.repr_eq_ofList_toDigits]
  · have hneg : n < 0 := Int.not_le.mp hn
    have habs : n.natAbs = (-n).toNat := by omega
    simp [hn, hneg, habs, Numeral.write, Numeral.writeSign, Numeral.writeUnsigned,
      Numeral.writeFraction, Numeral.writePower, Numeral.ofInt, Nat.repr_eq_ofList_toDigits]

end TitleSieve.Json
