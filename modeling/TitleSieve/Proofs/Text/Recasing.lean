import TitleSieve.Proofs.Text.AsciiCase
import TitleSieve.Proofs.Text.Cuts

/-!
Texts that are equal but for the case of letters of ASCII. Such letters are lowered alike, and
whether a capital sigma ends a word depends on which characters have case and which are looked past,
never on the case that they have. So these texts have one lowercase form. Cutting and trimming do
not look at letters, so they lead from such texts to such texts.
-/

namespace TitleSieve.Text

open Pattern

/-- Equal but for the case of letters of ASCII. -/
def SameLetters (t u : Text) : Prop := t.map Char.toLower = u.map Char.toLower

instance (t u : Text) : Decidable (SameLetters t u) :=
  inferInstanceAs (Decidable (t.map Char.toLower = u.map Char.toLower))

/-- Beyond ASCII nothing is changed. -/
theorem toLower_of_le {c : Char} (h : 128 ≤ c.toNat) : c.toLower = c := by
  rw [← Char.toNat_inj, toNat_toLower, lowerAscii, if_neg (by simp; omega)]

/-- What is asked of a character has the same answer for its small letter, if this holds in
ASCII. -/
theorem apply_toLower {α : Type} {f : Char → α}
    (hf : ∀ code < 128, f (Char.ofNat code).toLower = f (Char.ofNat code)) (c : Char) :
    f c.toLower = f c := by
  by_cases hc : c.toNat < 128
  · have hcode := hf c.toNat hc
    rwa [Char.ofNat_toNat] at hcode
  · rw [toLower_of_le (by omega)]

theorem toLower_eq_iff {c d : Char} (hd : d.toNat < 65 ∨ 122 < d.toNat) :
    c.toLower = d ↔ c = d := by
  rw [← Char.toNat_inj, ← Char.toNat_inj (c := c), toNat_toLower, lowerAscii]
  simp only [Bool.and_eq_true, decide_eq_true_eq]
  split <;> omega

theorem isBlank_toLower (c : Char) : isBlank c.toLower = isBlank c := apply_toLower (by decide) c

theorem isCased_toLower (c : Char) : isCased c.toLower = isCased c :=
  apply_toLower (by decide +kernel) c

theorem isCaseIgnorable_toLower (c : Char) : isCaseIgnorable c.toLower = isCaseIgnorable c :=
  apply_toLower (by decide +kernel) c

theorem meetsCased_map_toLower (t : Text) : meetsCased (t.map Char.toLower) = meetsCased t := by
  have hignorable : isCaseIgnorable ∘ Char.toLower = isCaseIgnorable :=
    funext isCaseIgnorable_toLower
  rw [meetsCased, meetsCased, List.dropWhile_map, hignorable]
  cases t.dropWhile isCaseIgnorable with
  | nil => rfl
  | cons c rest => exact isCased_toLower c

/-- A character has one lowercase form whatever case it and its surroundings have. -/
theorem lowerAt_toLower (before : Text) (c : Char) (after : Text) :
    lowerAt (before.map Char.toLower) c.toLower (after.map Char.toLower) =
      lowerAt before c after := by
  by_cases hc : c.toNat < 128
  · have hlow : c.toLower.toNat < 128 := by rwa [toNat_toLower, lowerAscii_lt_iff]
    have hplain : IsPlain c := .inl hc
    have hplain' : IsPlain c.toLower := .inl hlow
    rw [hplain.lowerAt_eq, hplain'.lowerAt_eq, toLower_toLower]
  · rw [toLower_of_le (by omega)]
    simp only [lowerAt, meetsCased_map_toLower]

theorem lowerFrom_map_toLower (before t : Text) :
    lowerFrom (before.map Char.toLower) (t.map Char.toLower) = lowerFrom before t := by
  induction t generalizing before with
  | nil => rfl
  | cons c rest ih =>
    rw [List.map_cons, lowerFrom, lowerAt_toLower, ← List.map_cons, ih, lowerFrom]

theorem lower_map_toLower (t : Text) : lower (t.map Char.toLower) = lower t :=
  lowerFrom_map_toLower [] t

theorem SameLetters.lower_eq {t u : Text} (h : SameLetters t u) : lower t = lower u := by
  rw [← lower_map_toLower t, ← lower_map_toLower u, h]

section

variable {isSeparator : Char → Bool}

theorem split_map_toLower (h : ∀ c, isSeparator c.toLower = isSeparator c) (t : Text) :
    split isSeparator (t.map Char.toLower) =
      (split isSeparator t).map (List.map Char.toLower) := by
  induction t with
  | nil => rfl
  | cons c rest ih =>
    rw [List.map_cons]
    cases hc : isSeparator c with
    | true =>
      have hlow : isSeparator c.toLower = true := by rw [h, hc]
      rw [split, if_pos hlow, split, if_pos hc, ih]
      rfl
    | false =>
      have hlow : isSeparator c.toLower = false := by rw [h, hc]
      rw [split_cons hlow, split_cons hc, ih]
      cases split isSeparator rest <;> rfl

theorem trim_map_toLower (t : Text) : trim (t.map Char.toLower) = (trim t).map Char.toLower := by
  have hblank : isBlank ∘ Char.toLower = isBlank := funext isBlank_toLower
  have hstart : ∀ u : Text, (u.map Char.toLower).dropWhile isBlank =
      (u.dropWhile isBlank).map Char.toLower := by
    intro u
    rw [List.dropWhile_map, hblank]
  simp only [trim, trimStart, trimEnd, hstart, ← List.map_reverse]

theorem pieces_map_toLower (h : ∀ c, isSeparator c.toLower = isSeparator c) (t : Text) :
    pieces isSeparator (t.map Char.toLower) =
      (pieces isSeparator t).map (List.map Char.toLower) := by
  have htrim : trim ∘ List.map Char.toLower = List.map Char.toLower ∘ trim :=
    funext trim_map_toLower
  have hempty : (fun piece : Text => !piece.isEmpty) ∘ List.map Char.toLower =
      fun piece => !piece.isEmpty := by
    funext piece
    cases piece <;> rfl
  rw [pieces, split_map_toLower h, List.map_map, htrim, ← List.map_map, List.filter_map, hempty,
    pieces]

end

end TitleSieve.Text
