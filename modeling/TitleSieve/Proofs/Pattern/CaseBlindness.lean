import TitleSieve.Pattern.Matcher
import TitleSieve.Proofs.Text.AsciiCase

/-!
Searching without regard to case. A pattern ignores case when each of its comparisons does. What it
asks of a character of ASCII has then the same answer for the capital and the small letter, so texts
that differ in such letters only are searched alike, step by step: the same ways are tried in the
same order, with the same captures.
-/

namespace TitleSieve.Pattern

open Text

/-- Code points of ASCII that are equal but for the case of a letter. -/
structure SameLetter (a b : Nat) : Prop where
  left_lt : a < 128
  right_lt : b < 128
  lower_eq : lowerAscii a = lowerAscii b

/-- Where lowering does not change the answer, the case of a letter does not. -/
theorem SameLetter.congr {α : Type} {f : Nat → α} {a b : Nat} (h : SameLetter a b)
    (hf : ∀ code < 128, f (lowerAscii code) = f code) : f a = f b := by
  calc
    f a = f (lowerAscii a) := (hf a h.left_lt).symm
    _ = f (lowerAscii b) := by rw [h.lower_eq]
    _ = f b := hf b h.right_lt

theorem SameLetter.key_eq {a b : Nat} (h : SameLetter a b) {fold : Fold} (hfold : fold ≠ .exact) :
    fold.key a = fold.key b := by
  cases fold with
  | exact => exact absurd rfl hfold
  | ascii => exact h.lower_eq
  | unicode =>
    rw [Fold.key, Fold.key, lowerCode_eq_lowerAscii h.left_lt, lowerCode_eq_lowerAscii h.right_lt,
      h.lower_eq]

/-- A capital of ASCII is in the class of its small letter. -/
theorem classOf_lowerAscii (code : Nat) : classOf (lowerAscii code) = classOf code := by
  have hletters : ∀ i < 26, classOf (97 + i) = classOf (65 + i) := by decide +kernel
  unfold lowerAscii
  simp only [Bool.and_eq_true, decide_eq_true_eq]
  split
  · rename_i hcapital
    have hletter := hletters (code - 65) (by omega)
    rwa [show 97 + (code - 65) = code + 32 by omega,
      show 65 + (code - 65) = code by omega] at hletter
  · rfl

theorem SameLetter.holds_eq {a b : Nat} (h : SameLetter a b) (which : Kind) (ascii : Bool) :
    which.holds ascii a = which.holds ascii b := by
  have hholds : ∀ code < 128, which.holds ascii (lowerAscii code) = which.holds ascii code := by
    cases ascii with
    | true => cases which <;> decide
    | false =>
      intro code hcode
      cases which with
      | digit => simp only [Kind.holds, classOf_lowerAscii]
      | space =>
        revert code
        decide
      | word =>
        have hline : (lowerAscii code == 95) = (code == 95) := by
          revert code
          decide
        simp only [Kind.holds, isWordCode, classOf_lowerAscii, hline]
  exact h.congr hholds

theorem SameLetter.beq_lineFeed {a b : Nat} (h : SameLetter a b) : (a == 10) = (b == 10) := by
  have hfeed : ∀ code < 128, (lowerAscii code == 10) = (code == 10) := by decide
  exact h.congr (f := (· == 10)) hfeed

/-- What a set asks of a character it asks of the key of the character, unless case counts. -/
theorem SameLetter.member_admits_eq {a b : Nat} (h : SameLetter a b) {fold : Fold}
    (hfold : fold ≠ .exact) (member : Member) : member.admits fold a = member.admits fold b := by
  have hkey := h.key_eq hfold
  cases member with
  | code n => simp only [Member.admits, Fold.agree, hkey]
  | span first last =>
    cases fold with
    | exact => exact absurd rfl hfold
    | ascii => simp only [Member.admits, spanAdmits, hkey]
    | unicode => simp only [Member.admits, spanAdmits, hkey]
  | kind which negated ascii => simp only [Member.admits, h.holds_eq]

def CharTest.IgnoresCase : CharTest → Prop
  | .any _ => True
  | .literal _ fold _ | .set _ fold _ => fold ≠ .exact

theorem CharTest.IgnoresCase.admits_eq {test : CharTest} (htest : test.IgnoresCase) {a b : Nat}
    (h : SameLetter a b) : test.admits a = test.admits b := by
  cases test with
  | any lineFeeds => simp only [CharTest.admits, bne, h.beq_lineFeed]
  | literal negated fold n => simp only [CharTest.admits, Fold.agree, h.key_eq htest]
  | set negated fold members => simp only [CharTest.admits, h.member_admits_eq htest]

/-- No comparison of the pattern minds case. -/
def Tree.IgnoresCase : Tree → Prop
  | .empty | .anchor _ => True
  | .one test => test.IgnoresCase
  | .seq first second | .alt first second | .ifCaptured _ first second =>
    first.IgnoresCase ∧ second.IgnoresCase
  | .loop _ _ _ body | .capture _ body | .atomic body | .ahead _ body | .behind _ body =>
    body.IgnoresCase
  | .again fold _ _ => fold ≠ .exact

/-- Subjects that are equal but for the case of letters of ASCII. -/
structure Subject.CaseVariants (s t : Subject) : Prop where
  size_eq : s.size = t.size
  codes : ∀ position, Option.Rel SameLetter (s.code? position) (t.code? position)

namespace Subject.CaseVariants

variable {s t : Subject} (h : s.CaseVariants t)

include h

theorem lineFeed_eq (position : Nat) :
    (s.code? position == some 10) = (t.code? position == some 10) := by
  have hcodes := h.codes position
  revert hcodes
  generalize s.code? position = first
  generalize t.code? position = second
  rintro (hsame | _)
  · simpa using hsame.beq_lineFeed
  · rfl

theorem wordAt_eq (ascii : Bool) (position : Nat) :
    s.wordAt ascii position = t.wordAt ascii position := by
  unfold Subject.wordAt
  have hcodes := h.codes position
  revert hcodes
  generalize s.code? position = first
  generalize t.code? position = second
  rintro (hsame | _)
  · exact hsame.holds_eq .word ascii
  · rfl

theorem anchor_eq (position : Nat) (mark : Anchor) :
    mark.holds s position = mark.holds t position := by
  cases mark <;>
    simp only [Anchor.holds, Subject.wordBefore, h.size_eq, h.lineFeed_eq, h.wordAt_eq]

theorem repeatEnd?_eq {fold : Fold} (hfold : fold ≠ .exact) (first last position : Nat) :
    repeatEnd? s fold first last position = repeatEnd? t fold first last position := by
  unfold repeatEnd?
  rw [h.size_eq]
  congr 4
  funext i
  have hfirst := h.codes (first + i)
  have hsecond := h.codes (position + i)
  revert hfirst hsecond
  generalize s.code? (first + i) = a
  generalize t.code? (first + i) = b
  generalize s.code? (position + i) = c
  generalize t.code? (position + i) = d
  rintro (hab | _) (hcd | _)
  · simp only [hab.key_eq hfold, hcd.key_eq hfold]
  · rfl
  · rfl
  · rfl

end Subject.CaseVariants

/-- A pattern that ignores case takes the same way through texts that differ in case only. -/
theorem Tree.IgnoresCase.run_eq {s t : Subject} (h : s.CaseVariants t) {tree : Tree}
    (htree : tree.IgnoresCase) : tree.run s = tree.run t := by
  induction tree with
  | empty => rfl
  | one test =>
    funext place rest
    simp only [Tree.run]
    have hcodes := h.codes place.position
    revert hcodes
    generalize s.code? place.position = first
    generalize t.code? place.position = second
    rintro (hsame | _)
    · simp only [CharTest.IgnoresCase.admits_eq htree hsame]
    · rfl
  | anchor mark =>
    funext place rest
    simp only [Tree.run, h.anchor_eq]
  | seq first second ihfirst ihsecond =>
    funext place rest
    simp only [Tree.run, ihfirst htree.1, ihsecond htree.2]
  | alt first second ihfirst ihsecond =>
    funext place rest
    simp only [Tree.run, ihfirst htree.1, ihsecond htree.2]
  | loop greed least most body ih =>
    funext place rest
    simp only [Tree.run, ih htree, h.size_eq]
  | capture index body ih =>
    funext place rest
    simp only [Tree.run, ih htree]
  | atomic body ih =>
    funext place rest
    simp only [Tree.run, ih htree]
  | ahead negated body ih =>
    funext place rest
    simp only [Tree.run, ih htree]
  | behind negated body ih =>
    funext place rest
    simp only [Tree.run, ih htree]
  | again fold index width =>
    funext place rest
    simp only [Tree.run, h.repeatEnd?_eq htree]
  | ifCaptured index yes no ihyes ihno =>
    funext place rest
    simp only [Tree.run, ihyes htree.1, ihno htree.2]

/-- Two texts of ASCII that have the same letters are subjects that differ in case only. -/
theorem caseVariants_of_map_toLower {first second : Text} (hfirst : ∀ c ∈ first, c.toNat < 128)
    (h : second.map Char.toLower = first.map Char.toLower) :
    Subject.CaseVariants first.toArray second.toArray := by
  have hlength : first.length = second.length := by
    have hlengths := congrArg List.length h
    rwa [List.length_map, List.length_map, eq_comm] at hlengths
  refine ⟨by simpa using hlength, fun position => ?_⟩
  have hat : second[position]?.map Char.toLower = first[position]?.map Char.toLower := by
    rw [← List.getElem?_map, ← List.getElem?_map, h]
  simp only [Subject.code?, List.getElem?_toArray]
  cases hc : first[position]? with
  | none =>
    rw [hc, Option.map_none, Option.map_eq_none_iff] at hat
    rw [hat]
    exact .none
  | some c =>
    rw [hc, Option.map_some, Option.map_eq_some_iff] at hat
    obtain ⟨d, hd, hlower⟩ := hat
    have hsmall : c.toNat < 128 := hfirst c (List.mem_of_getElem? hc)
    have hcodes : lowerAscii c.toNat = lowerAscii d.toNat := by
      rw [← toNat_toLower, ← toNat_toLower, hlower]
    have hd_lt : d.toNat < 128 := by
      rw [← lowerAscii_lt_iff, ← hcodes, lowerAscii_lt_iff]
      exact hsmall
    rw [hd]
    exact .some ⟨hsmall, hd_lt, hcodes⟩

theorem Tree.IgnoresCase.foundIn_eq {tree : Tree} (htree : tree.IgnoresCase) {first second : Text}
    (hfirst : ∀ c ∈ first, c.toNat < 128)
    (h : second.map Char.toLower = first.map Char.toLower) :
    tree.foundIn first = tree.foundIn second := by
  have hvariants := caseVariants_of_map_toLower hfirst h
  unfold Tree.foundIn
  simp only [htree.run_eq hvariants, hvariants.size_eq]

end TitleSieve.Pattern
