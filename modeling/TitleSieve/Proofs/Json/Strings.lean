import TitleSieve.Json.Reader
import TitleSieve.Json.Writer

/-!
Strings of JSON, written and read back. A character is written as itself or as an escape; what it is
written as holds no control character, and a reader that comes upon it goes on as if it had read the
character. The reader looks past the escape of a code to see whether it is half of a pair, but the
codes that are written are those of controls, which are never half of one.
-/

namespace TitleSieve.Json

/-- No character is a control, so that the text is on one line. -/
def IsClean (t : Text) : Prop := ∀ c ∈ t, 32 ≤ c.toNat

theorem IsClean.append {first second : Text} (hfirst : IsClean first) (hsecond : IsClean second) :
    IsClean (first ++ second) := by
  intro c hc
  rcases List.mem_append.mp hc with hc | hc
  · exact hfirst c hc
  · exact hsecond c hc

theorem isClean_iff_all (t : Text) : IsClean t ↔ (t.all fun c => decide (32 ≤ c.toNat)) = true := by
  simp only [IsClean, List.all_eq_true, decide_eq_true_eq]

theorem hexValue?_hexDigit {n : Nat} (h : n < 16) : hexValue? (Text.hexDigit n) = some n := by
  have hall : ∀ n < 16, hexValue? (Text.hexDigit n) = some n := by decide
  exact hall n h

theorem le_toNat_hexDigit {n : Nat} (h : n < 16) : 32 ≤ (Text.hexDigit n).toNat := by
  have hall : ∀ n < 16, 32 ≤ (Text.hexDigit n).toNat := by decide
  exact hall n h

theorem hexDigits_four (n : Nat) :
    Text.hexDigits 4 n = [Text.hexDigit (n / 16 / 16 / 16 % 16), Text.hexDigit (n / 16 / 16 % 16),
      Text.hexDigit (n / 16 % 16), Text.hexDigit (n % 16)] := rfl

/-- Four hexadecimal digits are read as the number that they are written for. -/
theorem hexCode?_hexDigit {n : Nat} (h : n < 0x10000) :
    hexCode? (Text.hexDigit (n / 16 / 16 / 16 % 16)) (Text.hexDigit (n / 16 / 16 % 16))
      (Text.hexDigit (n / 16 % 16)) (Text.hexDigit (n % 16)) = some n := by
  have hlast : ∀ m, hexValue? (Text.hexDigit (m % 16)) = some (m % 16) := fun m =>
    hexValue?_hexDigit (Nat.mod_lt m (by decide))
  have hvalue : ((n / 16 / 16 / 16 % 16 * 16 + n / 16 / 16 % 16) * 16 + n / 16 % 16) * 16 + n % 16 =
      n := by omega
  simp only [hexCode?, hlast, Option.bind_eq_bind, Option.bind_some, Option.pure_def, hvalue]

/-- What a character is written as: itself, a short escape, or the escape of its code. -/
inductive WrittenAs (c : Char) : Text → Prop where
  | plain (hvisible : 32 ≤ c.toNat) (hquote : c ≠ '"') (hslash : c ≠ '\\') : WrittenAs c [c]
  | escape {e : Char} (hvisible : 32 ≤ e.toNat) (hcode : e ≠ 'u')
    (hescape : plainEscape? e = some c) :
      WrittenAs c ['\\', e]
  | code (hcontrol : c.toNat < 32) : WrittenAs c (['\\', 'u'] ++ Text.hexDigits 4 c.toNat)

theorem writtenAs_writeChar (c : Char) : WrittenAs c (writeChar c) := by
  unfold writeChar
  iterate 7
    split
    · rename_i h
      subst h
      exact .escape (by decide) (by decide) rfl
  split
  · rename_i hcontrol
    exact .code hcontrol
  · rename_i hquote hslash _ _ _ _ _ hcontrol
    exact .plain (by omega) hquote hslash

theorem isClean_writeChar (c : Char) : IsClean (writeChar c) := by
  have hescape : ∀ d, 32 ≤ d.toNat → IsClean ['\\', d] := by
    intro d hd e he
    rcases List.mem_cons.mp he with rfl | he
    · decide
    · exact List.mem_singleton.mp he ▸ hd
  have hwritten := writtenAs_writeChar c
  generalize writeChar c = written at hwritten
  cases hwritten with
  | plain hvisible => exact fun d hd => List.mem_singleton.mp hd ▸ hvisible
  | escape hvisible => exact hescape _ hvisible
  | code =>
    apply (hescape 'u' (by decide)).append
    intro d hd
    have hdigit : ∀ m, 32 ≤ (Text.hexDigit (m % 16)).toNat := fun m =>
      le_toNat_hexDigit (Nat.mod_lt m (by decide))
    simp only [hexDigits_four, List.mem_cons, List.not_mem_nil, or_false] at hd
    rcases hd with rfl | rfl | rfl | rfl <;> exact hdigit _

/-- The escape of a code that is no half of a pair is read as its character, whatever follows. -/
theorem readString_code (opened : Nat) (torn : Bool) (read : Text) {a b c d image : Char}
    {code : Nat} (hcode : hexCode? a b c d = some code) (hhalf : isHighHalf code = false)
    (himage : charOf? code = some image) {rest : Text} (hrest : rest ≠ []) :
    readString opened torn read ('\\' :: 'u' :: a :: b :: c :: d :: rest) =
      readString opened torn (image :: read) rest := by
  obtain ⟨next, more, rfl⟩ := List.exists_cons_of_ne_nil hrest
  by_cases hpair : ∃ e f g h after left,
      next = '\\' ∧ more = 'u' :: e :: f :: g :: h :: after :: left
  · obtain ⟨e, f, g, h, after, left, rfl, rfl⟩ := hpair
    simp only [readString, hcode, hhalf, himage]
    rfl
  · have hsingle : ∀ e f g h after left, next = '\\' →
        more = 'u' :: e :: f :: g :: h :: after :: left → False :=
      fun e f g h after left hnext hmore => hpair ⟨e, f, g, h, after, left, hnext, hmore⟩
    rw [readString, hcode]
    · simp only [himage]
    · exact hsingle

theorem readString_writeChar (opened : Nat) (torn : Bool) (read : Text) (c : Char) {rest : Text}
    (hrest : rest ≠ []) :
    readString opened torn read (writeChar c ++ rest) =
      readString opened torn (c :: read) rest := by
  have hwritten := writtenAs_writeChar c
  generalize writeChar c = written at hwritten
  cases hwritten with
  | plain hvisible hquote hslash =>
    rw [List.singleton_append, readString, if_neg (by omega)]
    all_goals
      intros
      contradiction
  | escape hvisible hcode hescape =>
    simp only [List.cons_append, List.nil_append]
    rw [readString, hescape]
    all_goals
      intros
      contradiction
  | code hcontrol =>
    have hcode := hexCode?_hexDigit (n := c.toNat) (by omega)
    have hhalf : isHighHalf c.toNat = false := by
      simp only [isHighHalf, Bool.and_eq_false_iff, decide_eq_false_iff_not]
      omega
    have himage : charOf? c.toNat = some c := by
      have hlow : isLowHalf c.toNat = false := by
        simp only [isLowHalf, Bool.and_eq_false_iff, decide_eq_false_iff_not]
        omega
      simp [charOf?, hhalf, hlow]
    rw [hexDigits_four]
    exact readString_code opened torn read hcode hhalf himage hrest

/-- A string is read back up to its closing quote. -/
theorem readString_flatMap_writeChar (opened : Nat) (torn : Bool) (read t rest : Text) :
    readString opened torn read (t.flatMap writeChar ++ '"' :: rest) =
      .ok (⟨read.reverse ++ t, torn⟩, rest) := by
  induction t generalizing read with
  | nil => rw [List.flatMap_nil, List.nil_append, readString, List.append_nil]
  | cons c more ih =>
    rw [List.flatMap_cons, List.append_assoc, readString_writeChar opened torn read c (by simp), ih,
      List.reverse_cons, List.append_assoc, List.singleton_append]

theorem isClean_writeText (t : Text) : IsClean (writeText t) := by
  have hquote : IsClean ['"'] := by simp [IsClean]
  have hbody : IsClean (t.flatMap writeChar) := by
    intro c hc
    obtain ⟨d, -, hc⟩ := List.mem_flatMap.mp hc
    exact isClean_writeChar d c hc
  exact (hquote.append hbody).append hquote

end TitleSieve.Json
