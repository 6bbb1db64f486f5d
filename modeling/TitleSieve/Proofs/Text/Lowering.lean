import TitleSieve.Text.Lowercase

/-!
Lowercasing a part of a text. Every character but the capital sigma has one lowercase form wherever
it stands; a capital sigma has two, one of them for the end of a word. So the lowercase form of a
part stands in that of the whole text as soon as each capital sigma of the part ends a word of the
part exactly if it ends a word of the whole.
-/

namespace TitleSieve.Text

/-- A capital sigma between these two texts is the last letter of a word. -/
def endsWord (before after : Text) : Bool := meetsCased before.reverse && !meetsCased after

/-- Every capital sigma of the part is taken alike in the part alone and between the two texts. -/
def SigmasAgree (before part after : Text) : Prop :=
  ∀ first rest, part = first ++ 'Σ' :: rest →
    endsWord (before ++ first) (rest ++ after) = endsWord first rest

theorem sigmasAgree_of_not_mem {part : Text} (h : 'Σ' ∉ part) (before after : Text) :
    SigmasAgree before part after := by
  rintro first rest rfl
  exact absurd (List.mem_append_right first List.mem_cons_self) h

/-- What becomes of a part of a text behind the reversed text `before`. -/
def lowerPart (before : Text) : Text → Text → Text
  | [], _ => []
  | c :: rest, after => lowerAt before c (rest ++ after) ++ lowerPart (c :: before) rest after

theorem lowerFrom_append (before part after : Text) :
    lowerFrom before (part ++ after) =
      lowerPart before part after ++ lowerFrom (part.reverse ++ before) after := by
  induction part generalizing before with
  | nil => rfl
  | cons c rest ih =>
    rw [List.cons_append, lowerFrom, ih, lowerPart, List.append_assoc, List.reverse_cons,
      List.append_assoc, List.singleton_append]

theorem lowerPart_nil (before part : Text) : lowerPart before part [] = lowerFrom before part := by
  have h := lowerFrom_append before part []
  rw [List.append_nil, lowerFrom, List.append_nil] at h
  exact h.symm

/-- How long the lowercase form of a character is does not depend on where it stands. -/
theorem length_lowerAt (before before' after after' : Text) (c : Char) :
    (lowerAt before c after).length = (lowerAt before' c after').length := by
  unfold lowerAt
  split
  · rfl
  · rfl

/-- Only for a capital sigma it matters where it stands, and then only whether it ends a word. -/
theorem lowerAt_eq_iff (before before' after after' : Text) (c : Char) :
    lowerAt before c after = lowerAt before' c after' ↔
      (c = 'Σ' → endsWord before.reverse after = endsWord before'.reverse after') := by
  unfold lowerAt
  by_cases hc : c = 'Σ'
  · simp only [hc, if_true, endsWord, List.reverse_reverse, true_imp_iff]
    cases meetsCased before && !meetsCased after <;>
      cases meetsCased before' && !meetsCased after' <;> decide
  · simp [hc]

/-- A part has the same lowercase form in two places exactly if each of its capital sigmas is taken
alike there. -/
theorem lowerPart_eq_iff (before before' part after after' : Text) :
    lowerPart before part after = lowerPart before' part after' ↔
      ∀ first rest, part = first ++ 'Σ' :: rest →
        endsWord (before.reverse ++ first) (rest ++ after) =
          endsWord (before'.reverse ++ first) (rest ++ after') := by
  induction part generalizing before before' with
  | nil => simp [lowerPart]
  | cons c left ih =>
    have hlength := length_lowerAt before before' (left ++ after) (left ++ after') c
    have hparts : lowerPart before (c :: left) after = lowerPart before' (c :: left) after' ↔
        lowerAt before c (left ++ after) = lowerAt before' c (left ++ after') ∧
          lowerPart (c :: before) left after = lowerPart (c :: before') left after' := by
      constructor
      · intro h
        exact List.append_inj h hlength
      · rintro ⟨hhead, hrest⟩
        rw [lowerPart, lowerPart, hhead, hrest]
    rw [hparts, lowerAt_eq_iff, ih]
    constructor
    · rintro ⟨hhead, hrest⟩ first rest hsplit
      cases first with
      | nil =>
        obtain ⟨rfl, rfl⟩ := List.cons.inj hsplit
        simpa using hhead rfl
      | cons d more =>
        obtain ⟨rfl, hleft⟩ := List.cons.inj hsplit
        simpa using hrest more rest hleft
    · intro hall
      refine ⟨fun hc => ?_, fun more rest hleft => ?_⟩
      · simpa using hall [] left (by rw [hc, List.nil_append])
      · simpa using hall (c :: more) rest (by rw [hleft, List.cons_append])

theorem sigmasAgree_iff {before part after : Text} :
    SigmasAgree before part after ↔ lowerPart before.reverse part after = part.lower := by
  rw [lower, ← lowerPart_nil, lowerPart_eq_iff]
  simp only [List.reverse_reverse, List.reverse_nil, List.nil_append, List.append_nil, SigmasAgree]

instance SigmasAgree.decidable (before part after : Text) :
    Decidable (SigmasAgree before part after) :=
  decidable_of_iff _ sigmasAgree_iff.symm

/-- The lowercase form of a part is a part of the lowercase form of the whole. -/
theorem SigmasAgree.infix_lower {before part after : Text} (h : SigmasAgree before part after) :
    part.lower <:+: (before ++ part ++ after).lower := by
  have hpart : lowerPart before.reverse part after = part.lower := sigmasAgree_iff.mp h
  refine ⟨lowerPart [] before (part ++ after), lowerFrom (part.reverse ++ before.reverse) after, ?_⟩
  calc
    lowerPart [] before (part ++ after) ++ part.lower ++
        lowerFrom (part.reverse ++ before.reverse) after
      = lowerPart [] before (part ++ after) ++ lowerFrom before.reverse (part ++ after) := by
        rw [lowerFrom_append before.reverse, hpart, List.append_assoc]
    _ = (before ++ part ++ after).lower := by
        rw [List.append_assoc before, lower, lowerFrom_append [] before, List.append_nil]

end TitleSieve.Text
