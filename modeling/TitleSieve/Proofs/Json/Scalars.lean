import TitleSieve.Proofs.Json.Strings
import TitleSieve.Proofs.Json.WrittenNumbers

/-!
Texts and numbers in the place of a value. What such a value is written as begins with a character
that is not passed over as a space, and a reader that comes upon it ahead of a comma or a brace
takes exactly what was written. A text and a whole number are read back as they are, a double as a
double.
-/

namespace TitleSieve.Json

/-- A value ends where this text begins. -/
def EndsValue (rest : Text) : Prop := rest.head? = some ',' ∨ rest.head? = some '\x7d'

theorem EndsValue.endsNumeral {rest : Text} (h : EndsValue rest) : EndsNumeral rest := by
  intro c hc
  rcases h with h | h
  all_goals
    rw [h] at hc
    obtain rfl := Option.some.inj hc
    decide

/-- Wherever a value may stand, what is written is read as this value. -/
structure ReadsAs (written : Text) (value : Value) : Prop where
  isClean : IsClean written
  head : ∃ c more, written = c :: more ∧ isSpace c = false
  step : ∀ stack rest, EndsValue rest →
    Reader.stepValue stack (written ++ rest) = .ok (Reader.complete stack value, rest)

theorem readsAs_writeText (t : Text) : ReadsAs (writeText t) (.text t) := by
  refine ⟨isClean_writeText t, ⟨'"', _, rfl, by decide⟩, fun stack rest _ => ?_⟩
  have htext : writeText t ++ rest = '"' :: (t.flatMap writeChar ++ '"' :: rest) := by
    simp [writeText]
  rw [htext, Reader.stepValue, readString_flatMap_writeChar]
  rfl

theorem ne_of_isDigit {c d : Char} (hc : c.isDigit = false) (hd : d.isDigit = true) :
    (c == d) = false := by
  rw [beq_eq_false_iff_ne]
  rintro rfl
  rw [hc] at hd
  cases hd

theorem le_toNat_of_isDigit {c : Char} (h : c.isDigit = true) : 32 ≤ c.toNat := by
  simp only [Char.isDigit, Bool.and_eq_true, decide_eq_true_eq, ge_iff_le, UInt32.le_iff_toNat_le]
    at h
  have hlow : 48 ≤ c.val.toNat := h.1
  exact Nat.le_trans (by decide) hlow

theorem isPrefixOf_cons_eq_false {a b : Char} (h : (a == b) = false) (first second : Text) :
    (a :: first).isPrefixOf (b :: second) = false := by
  rw [List.isPrefixOf_cons_cons, h, Bool.false_and]

theorem readLiteral?_eq_none {t : Text}
    (h : ∀ word ∈ ["null", "true", "false", "NaN", "Infinity", "-Infinity"],
      word.toList.isPrefixOf t = false) : readLiteral? t = none := by
  simp only [List.forall_mem_cons] at h
  obtain ⟨hnull, htrue, hfalse, hundefined, hinfinite, hnegative, -⟩ := h
  unfold readLiteral?
  simp only [List.findSome?_cons, List.findSome?_nil, hnull, htrue, hfalse, hundefined, hinfinite,
    hnegative]
  rfl

/-- No literal begins with a digit. -/
theorem readLiteral?_digit {d : Char} (hd : d.isDigit = true) (more : Text) :
    readLiteral? (d :: more) = none := by
  apply readLiteral?_eq_none
  simp only [List.forall_mem_cons]
  refine ⟨?_, ?_, ?_, ?_, ?_, ?_, fun _ hword => (nomatch hword)⟩
  all_goals exact isPrefixOf_cons_eq_false (ne_of_isDigit (by decide) hd) _ _

/-- The literal that begins with a hyphen has no digit behind it. -/
theorem readLiteral?_hyphen {d : Char} (hd : d.isDigit = true) (more : Text) :
    readLiteral? ('-' :: d :: more) = none := by
  apply readLiteral?_eq_none
  simp only [List.forall_mem_cons]
  refine ⟨?_, ?_, ?_, ?_, ?_, ?_, fun _ hword => (nomatch hword)⟩
  case refine_6 => exact isPrefixOf_cons_eq_false (ne_of_isDigit (by decide) hd) _ _
  all_goals exact isPrefixOf_cons_eq_false (by decide) _ _

namespace Numeral

variable {numeral : Numeral} {rest : Text}

theorem isClean_write (h : numeral.Valid) : IsClean numeral.write := by
  have hdigits : ∀ t : Text, (∀ c ∈ t, c.isDigit = true) → IsClean t := fun t ht c hc =>
    le_toNat_of_isDigit (ht c hc)
  have hsign : IsClean (writeSign numeral.negative) := by
    cases numeral.negative <;> simp [writeSign, IsClean]
  have hfraction : IsClean (writeFraction numeral.fraction) := by
    have hpoint : IsClean ['.'] := by simp [IsClean]
    unfold writeFraction
    split
    · simp [IsClean]
    · exact hpoint.append (hdigits _ h.fraction)
  have hpower : IsClean (writePower numeral.power) := by
    cases hpower : numeral.power with
    | none => simp [writePower, IsClean]
    | some p =>
      obtain ⟨negative, digits⟩ := p
      have hmark : IsClean ['e', if negative then '-' else '+'] := by
        cases negative <;> simp [IsClean]
      exact hmark.append (hdigits _ (h.power _ hpower).2)
  exact hsign.append ((hdigits _ h.whole.2).append (hfraction.append hpower))

/-- A numeral begins with a digit, or with a hyphen and a digit. -/
theorem exists_write_eq (h : numeral.Valid) :
    ∃ d more, d.isDigit = true ∧
      (numeral.write = d :: more ∨ numeral.write = '-' :: d :: more) := by
  obtain ⟨hne, hdigits⟩ := h.whole
  obtain ⟨d, left, hwhole⟩ := List.exists_cons_of_ne_nil hne
  have hunsigned : ∃ more, numeral.writeUnsigned = d :: more := by
    rw [writeUnsigned, hwhole]
    exact ⟨_, rfl⟩
  obtain ⟨more, hmore⟩ := hunsigned
  refine ⟨d, more, hdigits d (by simp [hwhole]), ?_⟩
  rw [write, hmore]
  cases numeral.negative with
  | false => exact .inl rfl
  | true => exact .inr rfl

/-- Where a value may stand, a numeral is read as its value. -/
theorem readsAs_write (h : numeral.Valid)
    (hlimit : numeral.isWhole = true → numeral.whole.length ≤ Number.digitLimit) :
    ReadsAs numeral.write numeral.value := by
  obtain ⟨d, more, hd, hwrite⟩ := exists_write_eq h
  have hhead : ∀ c : Char, c.isDigit = false → (d == c) = false := by
    intro c hc
    rw [BEq.comm]
    exact ne_of_isDigit hc hd
  refine ⟨isClean_write h, ?_, fun stack rest hrest => ?_⟩
  · rcases hwrite with hwrite | hwrite
    · have hspace : isSpace d = false := by
        simp only [isSpace, hhead ' ' rfl, hhead '\t' rfl, hhead '\n' rfl, hhead '\r' rfl,
          Bool.or_self]
      exact ⟨d, more, hwrite, hspace⟩
    · exact ⟨'-', d :: more, hwrite, by decide⟩
  · have hnumber := h.readNumber_write hrest.endsNumeral hlimit
    rcases hwrite with hwrite | hwrite
    · have hne : ∀ c : Char, c.isDigit = false →
          ∀ tail, d :: (more ++ rest) = c :: tail → False := by
        intro c hc tail htail
        have hdiffers := hhead c hc
        rw [(List.cons.inj htail).1, beq_self_eq_true] at hdiffers
        cases hdiffers
      rw [hwrite, List.cons_append] at hnumber ⊢
      rw [Reader.stepValue, readLiteral?_digit hd]
      · simp only [hnumber]
        rfl
      · exact hne '"' rfl
      · exact hne '[' rfl
      · exact hne '\x7b' rfl
    · rw [hwrite, List.cons_append, List.cons_append] at hnumber ⊢
      rw [Reader.stepValue, readLiteral?_hyphen hd]
      · simp only [hnumber]
        rfl
      all_goals
        intro tail htail
        cases htail

end Numeral

/-- A number with no more digits than a reader takes. -/
def IsReadable (n : Nat) : Prop := (Nat.toDigits 10 n).length ≤ Number.digitLimit

theorem IsReadable.of_le {m n : Nat} (h : IsReadable n) (hle : m ≤ n) : IsReadable m := by
  have hpos : 0 < (Nat.toDigits 10 n).length := List.length_pos_iff.mpr (isDigits_toDigits n).1
  have hn : n < 10 ^ (Nat.toDigits 10 n).length :=
    (Nat.length_toDigits_le_iff (by decide) hpos).mp (Nat.le_refl _)
  have hm : (Nat.toDigits 10 m).length ≤ (Nat.toDigits 10 n).length :=
    (Nat.length_toDigits_le_iff (by decide) hpos).mpr (Nat.lt_of_le_of_lt hle hn)
  exact Nat.le_trans hm h

/-- A whole number is read back, unless it has too many digits. -/
theorem readsAs_writeInt {n : Int} (h : IsReadable n.natAbs) : ReadsAs (writeInt n) (.int n) := by
  have hread := Numeral.readsAs_write (Numeral.valid_ofInt n) fun _ => h
  rwa [← writeInt_eq, Numeral.value_ofInt] at hread

theorem isClean_writeInt (n : Int) : IsClean (writeInt n) := by
  rw [writeInt_eq]
  exact Numeral.isClean_write (Numeral.valid_ofInt n)

/-- The name of a number that cannot be written in digits. -/
theorem readsAs_literal {c : Char} {more : Text} {value : Value}
    (hclean : IsClean (c :: more)) (hspace : isSpace c = false)
    (hstart : c ≠ '"' ∧ c ≠ '[' ∧ c ≠ '\x7b')
    (hliteral : ∀ rest, readLiteral? (c :: more ++ rest) = some (value, rest)) :
    ReadsAs (c :: more) value := by
  refine ⟨hclean, ⟨c, more, rfl, hspace⟩, fun stack rest _ => ?_⟩
  have hread := hliteral rest
  rw [List.cons_append] at hread ⊢
  rw [Reader.stepValue, hread]
  · exact fun tail htail => hstart.1 (List.cons.inj htail).1
  · exact fun tail htail => hstart.2.1 (List.cons.inj htail).1
  · exact fun tail htail => hstart.2.2 (List.cons.inj htail).1

theorem exists_readsAs_writeDouble (x : Number.Double) :
    ∃ y, ReadsAs (writeDouble x) (.double y) := by
  cases x with
  | finite negative significand exponent =>
    obtain ⟨numeral, hvalid, hwhole, hrender⟩ :=
      exists_numeral_render negative significand exponent
    have hlimit : numeral.isWhole = true → numeral.whole.length ≤ Number.digitLimit := by
      intro h
      rw [hwhole] at h
      cases h
    have hread := Numeral.readsAs_write hvalid hlimit
    rw [← hrender, Numeral.value, hwhole, if_neg Bool.false_ne_true] at hread
    exact ⟨_, hread⟩
  | infinite negative =>
    refine ⟨.infinite negative, ?_⟩
    cases negative with
    | false =>
      exact readsAs_literal ((isClean_iff_all _).mpr (by decide)) (by decide) (by decide)
        fun rest => rfl
    | true =>
      exact readsAs_literal ((isClean_iff_all _).mpr (by decide)) (by decide) (by decide)
        fun rest => rfl
  | undefined =>
    exact ⟨.undefined, readsAs_literal ((isClean_iff_all _).mpr (by decide)) (by decide)
      (by decide) fun rest => rfl⟩

end TitleSieve.Json
