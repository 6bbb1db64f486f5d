import Mathlib.Algebra.Group.Nat.Defs
import TitleSieve.Proofs.Pattern.Shown

/-!
Reading escapes and sets. A reading goes on in the same tokens, and it is refused only if one of its
codes is too great. Such a code has eight digits, because fewer cannot write a number so great.
-/

namespace TitleSieve.Pattern

theorem char_le_iff (c d : Char) : c ≤ d ↔ c.toNat ≤ d.toNat := by
  rw [Char.le_def, UInt32.le_iff_toNat_le]
  rfl

theorem hexValue_lt {c : Char} (h : isHexDigit c = true) : hexValue c < 16 := by
  have hdigit : c.isDigit = true ↔ 48 ≤ c.toNat ∧ c.toNat ≤ 57 := by
    rw [Char.isDigit, Bool.and_eq_true, decide_eq_true_eq, decide_eq_true_eq]
    exact Iff.rfl
  have hlower : 'a' ≤ c ↔ 97 ≤ c.toNat := char_le_iff 'a' c
  have hform : (48 ≤ c.toNat ∧ c.toNat ≤ 57) ∨ (97 ≤ c.toNat ∧ c.toNat ≤ 102) ∨
      (65 ≤ c.toNat ∧ c.toNat ≤ 70) := by
    have hlast : c ≤ 'f' ↔ c.toNat ≤ 102 := char_le_iff c 'f'
    have hupper : 'A' ≤ c ↔ 65 ≤ c.toNat := char_le_iff 'A' c
    have hlastUpper : c ≤ 'F' ↔ c.toNat ≤ 70 := char_le_iff c 'F'
    simpa only [isHexDigit, Bool.or_eq_true, Bool.and_eq_true, decide_eq_true_eq, hdigit, hlower,
      hlast, hupper, hlastUpper, or_assoc] using h
  simp only [hexValue, hdigit, hlower]
  split
  · omega
  · split <;> omega

theorem valueOf_lt {digits : Text} (h : ∀ c ∈ digits, isHexDigit c = true) :
    valueOf 16 digits < 16 ^ digits.length := by
  induction digits using List.reverseRecOn with
  | nil => decide
  | append_singleton digits c ih =>
    rw [List.forall_mem_append] at h
    have hdigits := ih h.1
    have hc := hexValue_lt (h.2 c List.mem_cons_self)
    have hvalue : valueOf 16 (digits ++ [c]) = valueOf 16 digits * 16 + hexValue c := by
      simp [valueOf]
    rw [hvalue, List.length_append, List.length_singleton, Nat.pow_succ]
    omega

variable {tokens : List Token} {src : Source}

theorem ensures_nameUntil (src : Source) (terminator : Char) (what : String) :
    Ensures (ShownIn tokens) (GoesOn src) (src.nameUntil terminator what) := by
  unfold Source.nameUntil
  refine Source.ensures_scan src.Trails (fun name here hhere hne => ?_)
    (fun name position _ => ?_) List.suffix_rfl
  · refine (Source.ensures_get here).bind fun result hresult => ?_
    obtain ⟨token, rest⟩ := result
    have hrest := hresult.suffix.trans hhere
    simp only
    split
    · exact ensures_malformed ..
    · split
      · split
        · exact ensures_malformed ..
        · exact ensures_pure hrest
      · exact ensures_pure ⟨hresult.suffix_tail hne, hrest⟩
  · split <;> exact ensures_malformed ..

/-- The letters that write a code point in hexadecimal, with the number of digits behind each. -/
def hexSizes : List (Char × Nat) := [('x', 2), ('u', 4), ('U', 8)]

theorem ensures_readHex {letter : Char} {size : Nat}
    (hsize : (letter, size) ∈ hexSizes) (h : .escaped letter :: src.tokens <:+: tokens) :
    Ensures (ShownIn tokens) (GoesOn src) (readHex letter size src) := by
  unfold readHex
  refine (Source.ensures_getWhile isHexDigit size src).bind fun result hresult => ?_
  obtain ⟨digits, rest⟩ := result
  obtain ⟨htokens, hdigits⟩ := hresult
  simp only
  split
  · exact ensures_malformed ..
  · rename_i hlength
    rw [ne_eq, not_not] at hlength
    split
    · rename_i hcode
      -- Fewer than eight digits cannot write a number that is too great.
      have hvalue : valueOf 16 digits < 16 ^ digits.length := valueOf_lt hdigits
      have hform : letter = 'U' ∧ digits.length = 8 := by
        rw [hlength] at hvalue
        simp only [hexSizes, List.mem_cons, List.not_mem_nil, or_false, Prod.mk.injEq] at hsize
        rcases hsize with ⟨rfl, rfl⟩ | ⟨rfl, rfl⟩ | ⟨rfl, rfl⟩
        · rw [lastWritableCode] at hcode
          omega
        · rw [lastWritableCode] at hcode
          omega
        · exact ⟨rfl, hlength⟩
      obtain ⟨rfl, height⟩ := hform
      refine ensures_refused ⟨digits, ?_, height, hdigits, hcode⟩
      have hpart : .escaped 'U' :: digits.map .plain <:+: tokens := by
        refine List.IsInfix.trans (List.IsPrefix.isInfix ?_) h
        exact ⟨rest.tokens, by rw [List.cons_append, ← htokens]⟩
      have htext := infix_textOf hpart
      rwa [show textOf (.escaped 'U' :: digits.map .plain) =
        '\\' :: 'U' :: textOf (digits.map .plain) from rfl, textOf_plain] at htext
    · split
      · exact ensures_malformed ..
      · exact ensures_pure ⟨digits.map .plain, htokens.symm⟩

theorem ensures_readNamed (src : Source) :
    Ensures (ShownIn tokens) (GoesOn src) (readNamed src) := by
  unfold readNamed
  refine (Source.ensures_accept src '\x7b').bind fun result hopened => ?_
  obtain ⟨opened, inner⟩ := result
  simp only
  split
  · exact ensures_malformed ..
  · refine (ensures_nameUntil inner '\x7d' "character name").bind fun result hrest => ?_
    split
    · exact ensures_pure (List.IsSuffix.trans hrest hopened.suffix)
    · exact ensures_malformed ..

theorem ensures_readNumbered {letter : Char}
    (h : .escaped letter :: src.tokens <:+: tokens) {reading : Reading (Nat × Source)}
    (hreading : readNumbered? letter src = some reading) :
    Ensures (ShownIn tokens) (GoesOn src) reading := by
  unfold readNumbered? at hreading
  split at hreading
  · obtain rfl := Option.some.inj hreading
    exact ensures_readHex (by decide) h
  · obtain rfl := Option.some.inj hreading
    exact ensures_readHex (by decide) h
  · obtain rfl := Option.some.inj hreading
    exact ensures_readHex (by decide) h
  · obtain rfl := Option.some.inj hreading
    exact ensures_readNamed src
  · cases hreading

theorem ensures_readMemberEscape {ascii : Bool} {letter : Char}
    (h : .escaped letter :: src.tokens <:+: tokens) :
    Ensures (ShownIn tokens) (GoesOn src) (readMemberEscape ascii letter src) := by
  unfold readMemberEscape
  split
  · exact ensures_pure List.suffix_rfl
  · exact ensures_pure List.suffix_rfl
  · rename_i reading _ _ hreading
    refine (ensures_readNumbered h hreading).bind fun result hrest => ?_
    exact ensures_pure hrest
  · split
    · refine (Source.ensures_getWhile isOctalDigit 2 src).bind fun result hresult => ?_
      simp only
      split
      · exact ensures_malformed ..
      · exact ensures_pure ⟨_, hresult.1.symm⟩
    · split
      · exact ensures_malformed ..
      · exact ensures_pure List.suffix_rfl

theorem ensures_readReference (first : Char) (src : Source) :
    Ensures (ShownIn tokens) (GoesOn src) (readReference first src) := by
  unfold readReference
  split
  · split
    · refine (Source.ensures_advance src).bind fun rest hrest => ?_
      have hsuffix : rest.tokens <:+ src.tokens := by
        rw [hrest]
        exact List.tail_suffix _
      split
      · split
        · refine (Source.ensures_advance rest).bind fun last hlast => ?_
          simp only
          split
          · exact ensures_malformed ..
          · refine ensures_pure (List.IsSuffix.trans ?_ hsuffix)
            rw [hlast]
            exact List.tail_suffix _
        · exact ensures_pure hsuffix
      · exact ensures_pure hsuffix
    · exact ensures_pure List.suffix_rfl
  · exact ensures_pure List.suffix_rfl

theorem ensures_readEscape {letter : Char}
    (h : .escaped letter :: src.tokens <:+: tokens) :
    Ensures (ShownIn tokens) (GoesOn src) (readEscape letter src) := by
  unfold readEscape
  split
  · exact ensures_pure List.suffix_rfl
  · exact ensures_pure List.suffix_rfl
  · exact ensures_pure List.suffix_rfl
  · exact ensures_pure List.suffix_rfl
  · split
    · exact ensures_pure List.suffix_rfl
    · exact ensures_pure List.suffix_rfl
    · rename_i reading _ _ hreading
      refine (ensures_readNumbered h hreading).bind fun result hrest => ?_
      exact ensures_pure hrest
    · split
      · refine (Source.ensures_getWhile isOctalDigit 2 src).bind fun result hresult => ?_
        exact ensures_pure ⟨_, hresult.1.symm⟩
      · split
        · exact ensures_readReference ..
        · split
          · exact ensures_malformed ..
          · exact ensures_pure List.suffix_rfl

theorem ensures_readMember {ascii : Bool} {token : Token}
    (h : token :: src.tokens <:+: tokens) :
    Ensures (ShownIn tokens) (GoesOn src) (readMember ascii token src) := by
  cases token with
  | plain c => exact ensures_ok List.suffix_rfl
  | escaped letter => exact ensures_readMemberEscape h
  | dangling => exact ensures_ok List.suffix_rfl

theorem ensures_readSpan {ascii : Bool} {opening : Nat} {token : Token} {first : Member}
    (h : src.tokens <:+: tokens) :
    Ensures (ShownIn tokens) (fun result => result.2.2.tokens <:+ src.tokens)
      (readSpan ascii opening token first src) := by
  unfold readSpan
  refine (Source.ensures_get src).bind fun result hresult => ?_
  have hrest := hresult.suffix
  cases hresult with
  | nothing => exact ensures_malformed ..
  | @token next rest htokens =>
    simp only
    split
    · exact ensures_malformed ..
    · exact ensures_pure hrest
    · rename_i found hfound
      obtain rfl := Option.some.inj hfound
      rw [htokens] at h
      refine (ensures_readMember h).bind fun result hlast => ?_
      split
      · split
        · exact ensures_malformed ..
        · exact ensures_pure (List.IsSuffix.trans hlast hrest)
      · exact ensures_malformed ..

theorem ensures_readMembers {ascii : Bool} {opening : Nat}
    (h : src.tokens <:+: tokens) :
    Ensures (ShownIn tokens) (GoesOn src) (readMembers ascii opening src) := by
  unfold readMembers
  refine Source.ensures_scan src.Trails (fun members here hhere hne => ?_)
    (fun _ _ _ => ensures_malformed ..) List.suffix_rfl
  refine (Source.ensures_get here).bind fun result hresult => ?_
  have hrest := hresult.suffix.trans hhere
  cases hresult with
  | nothing => exact ensures_malformed ..
  | @token token rest htokens =>
    have hmember : token :: rest.tokens <:+: tokens := by
      rw [← htokens]
      exact (List.IsSuffix.isInfix hhere).trans h
    have htail : here.tokens.tail = rest.tokens := by rw [htokens]; rfl
    simp only
    split
    · exact ensures_pure hrest
    · refine (ensures_readMember hmember).bind fun result hbehind => ?_
      obtain ⟨first, behind⟩ := result
      refine (Source.ensures_accept behind '-').bind fun result hhyphen => ?_
      obtain ⟨hyphen, past⟩ := result
      have hpast : past.tokens <:+ rest.tokens := hhyphen.suffix.trans hbehind
      simp only
      split
      · have hspan : past.tokens <:+: tokens := (hpast.trans hrest).isInfix.trans h
        refine (ensures_readSpan hspan).bind fun result hlast => ?_
        obtain ⟨more, ended, last⟩ := result
        have hlast : last.tokens <:+ rest.tokens := List.IsSuffix.trans hlast hpast
        simp only
        split
        · exact ensures_pure (hlast.trans hrest)
        · exact ensures_pure ⟨htail ▸ hlast, hlast.trans hrest⟩
      · exact ensures_pure ⟨htail ▸ hpast, hpast.trans hrest⟩

theorem ensures_readSet {ascii : Bool} {fold : Fold} (h : src.tokens <:+: tokens) :
    Ensures (ShownIn tokens) (GoesOn src) (readSet ascii fold src) := by
  unfold readSet
  refine (Source.ensures_accept src '^').bind fun result hresult => ?_
  obtain ⟨negated, inner⟩ := result
  have hinner : inner.tokens <:+ src.tokens := hresult.suffix
  refine (ensures_readMembers (hinner.isInfix.trans h)).bind fun result hrest => ?_
  exact ensures_pure (List.IsSuffix.trans hrest hinner)

end TitleSieve.Pattern
