import TitleSieve.Proofs.Pattern.Excesses
import TitleSieve.Proofs.Rule.Image

/-!
How the reading of a rule ends. Each segment is read on its own, and a pattern with a fault is kept
as a literal. But a pattern that is refused ends the reading of the whole rule, so a rule is read
exactly if none of its patterns is refused; and what a pattern is refused for shows in the rule.
-/

namespace TitleSieve

open Text Pattern

def Rule.Refuses (segment : Text) (excess : Excess) : Prop :=
  ∃ body, Rule.patternBody? segment = some body ∧ Tree.read body = .error (.refused excess)

theorem Group.read_eq_error_iff {segment : Text} {excess : Excess} :
    Group.read segment = .error excess ↔ Rule.Refuses segment excess := by
  unfold Group.read Term.read Rule.Refuses
  cases Rule.patternBody? segment with
  | none => simp
  | some body =>
    simp only [Option.some.injEq, exists_eq_left']
    unfold Term.readPattern
    rcases Tree.read body with (⟨cause, position⟩ | found) | tree <;> simp

/-- Among these segments there is one that is refused, and the first one is refused for this
excess. -/
inductive Rule.FirstRefused (excess : Excess) : List Text → Prop where
  | here {segment : Text} {rest : List Text} (h : Refuses segment excess) :
      FirstRefused excess (segment :: rest)
  | later {segment : Text} {rest : List Text} (h : ∀ other, ¬ Refuses segment other)
      (hrest : FirstRefused excess rest) : FirstRefused excess (segment :: rest)

theorem Rule.FirstRefused.exists_mem {excess : Excess} {segments : List Text}
    (h : FirstRefused excess segments) : ∃ segment ∈ segments, Refuses segment excess := by
  induction h with
  | here h => exact ⟨_, List.mem_cons_self, h⟩
  | later _ _ ih =>
    obtain ⟨segment, hmem, hrefuses⟩ := ih
    exact ⟨segment, List.mem_cons_of_mem _ hmem, hrefuses⟩

/-- The first segment that is refused ends the reading. -/
theorem Group.readAll_eq_error_iff {segments : List Text} {excess : Excess} :
    Group.readAll segments = .error excess ↔ Rule.FirstRefused excess segments := by
  induction segments with
  | nil =>
    constructor <;> intro h <;> cases h
  | cons segment rest ih =>
    unfold Group.readAll
    cases hread : Group.read segment with
    | error found =>
      have hrefuses := Group.read_eq_error_iff.mp hread
      constructor
      · intro h
        obtain rfl : found = excess := Except.error.inj h
        exact .here hrefuses
      · intro h
        cases h with
        | here h => rw [← hread, Group.read_eq_error_iff.mpr h]
        | later h => exact absurd hrefuses (h found)
    | ok group =>
      have hfine : ∀ other, ¬ Rule.Refuses segment other := by
        intro other hother
        rw [Group.read_eq_error_iff.mpr hother] at hread
        cases hread
      have hrest : Rule.FirstRefused excess (segment :: rest) ↔ Rule.FirstRefused excess rest := by
        constructor
        · intro h
          cases h with
          | here h => exact absurd h (hfine excess)
          | later _ hrest => exact hrest
        · exact .later hfine
      rw [hrest, ← ih]
      cases Group.readAll rest <;> simp

namespace Rule

variable {segment raw : Text} {excess : Excess}

/-- What a segment of a rule is refused for shows in the rule. -/
theorem Refuses.showsIn (h : Refuses segment excess) (hsegment : segment ∈ segments raw) :
    excess.ShowsIn raw := by
  obtain ⟨body, hbody, hread⟩ := h
  obtain ⟨-, rfl⟩ := patternBody?_eq_some_iff.mp hbody
  have hpart : body <:+: '/' :: (body ++ ['/']) := ⟨['/'], ['/'], rfl⟩
  exact (Tree.showsIn_of_read hread).of_part (hpart.trans (infix_of_mem_pieces hsegment))

/-- The reading of a rule ends in one of two ways. Either each segment has become the group that it
is read as on its own, a pattern with a fault being kept without a tree; such a pattern is matched
as the literal that its body is. Or there is a pattern that is refused; then the reading fails as
the first of these does, and the reason shows in the rule: a bound between braces that is too great
or has too many digits, a code of eight hexadecimal digits that is too great, or two flag settings
that exclude each other. A limit to the depth of nested groups is left out, as in `Tree.read`. -/
theorem readGiven_ends (raw : Option Text) :
    ((∃ rule, readGiven raw = .ok rule ∧
        segments (raw.getD []) = rule.value.groups.map Group.source ∧
        ∀ group ∈ rule.value.groups, group.Follows) ∨
      ∃ excess, readGiven raw = .error excess ∧ FirstRefused excess (segments (raw.getD [])) ∧
        excess.ShowsIn (raw.getD [])) ∧
      ∀ (converter : Converter) (title : Forms) (body : Text),
        (Term.pattern body none).metBy converter title =
          (Term.plain [body]).metBy converter title := by
  refine ⟨?_, fun _ _ _ => rfl⟩
  unfold readGiven Rule.read
  cases hread : Group.readAll (segments (raw.getD [])) with
  | ok groups =>
    obtain ⟨hsources, hfollows⟩ := Group.readAll_iff.mp ⟨groups.warnings, hread⟩
    exact .inl ⟨_, rfl, hsources, hfollows⟩
  | error excess =>
    have hfirst := Group.readAll_eq_error_iff.mp hread
    obtain ⟨segment, hsegment, hrefuses⟩ := hfirst.exists_mem
    exact .inr ⟨excess, rfl, hfirst, hrefuses.showsIn hsegment⟩

/-- Not every rule is read: a bound may be so great that the reading fails. -/
theorem not_readGiven_great_bound :
    readGiven (some "/a\x7b4294967295\x7d/".toList) = .error .repetition ∧
      ¬ ∀ raw, ∃ rule, readGiven raw = .ok rule := by
  have hrefused : readGiven (some "/a\x7b4294967295\x7d/".toList) = .error .repetition := by
    decide +kernel
  refine ⟨hrefused, fun hall => ?_⟩
  obtain ⟨rule, hrule⟩ := hall (some "/a\x7b4294967295\x7d/".toList)
  rw [hrefused] at hrule
  cases hrule

/-- Codes and flags are refused too, wherever the pattern stands. -/
example : readGiven (some "a; /\\UFFFFFFFF/".toList) = .error .code ∧
    readGiven (some "/(?a)(?u)b/; c".toList) = .error .flags := by
  decide +kernel

end Rule

end TitleSieve
