import TitleSieve.Proofs.Rule.Conjunction

/-!
Texts of rules with a separator between them and blanks around each. Blanks around a text belong to
none of its segments, so they are not seen, and what is read is what both texts are read as: the
groups of the first one and behind them those of the second. A title is tried on the second rule
only if it meets the first one.
-/

namespace TitleSieve.Rule

open Text

theorem isSeparator_of_isBlank (c : Char) (hc : isBlank c = true) : isSeparator c = false := by
  have hnarrow : (c == ';') = false := beq_eq_false_of_isBlank hc (by decide)
  have hwide : (c == wideSemicolon) = false := beq_eq_false_of_isBlank hc (by decide)
  rw [isSeparator, hnarrow, hwide, Bool.or_false]

theorem segments_between_blanks {before after : Text} (hbefore : isAllBlank before = true)
    (hafter : isAllBlank after = true) (raw : Text) :
    segments (before ++ raw ++ after) = segments raw := by
  calc
    segments (before ++ raw ++ after) = segments (before ++ raw) :=
      pieces_append_blanks isSeparator_of_isBlank hafter (before ++ raw)
    _ = segments raw := pieces_blanks_append isSeparator_of_isBlank hbefore raw

/-- The text consists of two texts with a separator between them and blanks around each. -/
inductive Joins (raw more : Text) : Text → Prop where
  | intro {c : Char} (hc : isSeparator c = true) {before after before' after' : Text}
      (hbefore : isAllBlank before = true) (hafter : isAllBlank after = true)
      (hbefore' : isAllBlank before' = true) (hafter' : isAllBlank after' = true) :
      Joins raw more (before ++ raw ++ after ++ c :: (before' ++ more ++ after'))

theorem Joins.segments_eq {raw more joined : Text} (h : Joins raw more joined) :
    segments joined = segments raw ++ segments more := by
  cases h with
  | intro hc hbefore hafter hbefore' hafter' =>
    rw [segments_append_cons hc, segments_between_blanks hbefore hafter,
      segments_between_blanks hbefore' hafter']

/-- The blanks and the width of the separator are not seen. -/
theorem Joins.read_eq {raw more joined : Text} (h : Joins raw more joined) :
    Rule.read joined = Rule.read (raw ++ ';' :: more) := by
  have hplain : segments (raw ++ ';' :: more) = segments raw ++ segments more :=
    segments_append_cons (by decide) raw more
  simp only [Rule.read, h.segments_eq, hplain]

/-- A separator between two rules asks for both of them, whatever blanks stand around it. The joined
text is refused exactly if one of the two is, for the reason of the first one that is; otherwise it
is read as the groups of both, with the warnings of both, in order. A title that does not meet the
first rule, or whose trial on it fails, is not tried on the second one. -/
theorem read_joined {raw more joined : Text} (h : Joins raw more joined) :
    match Rule.read raw, Rule.read more with
    | .error excess, _ => Rule.read joined = .error excess
    | .ok _, .error excess => Rule.read joined = .error excess
    | .ok first, .ok second =>
      ∃ both, Rule.read joined = .ok both ∧
        both.value.groups = first.value.groups ++ second.value.groups ∧
        both.warnings = first.warnings ++ second.warnings ∧
        ∀ converter title, both.value.alone converter title =
          match first.value.alone converter title with
          | .error fault => .error fault
          | .ok false => .ok false
          | .ok true => second.value.alone converter title := by
  have hread := h.read_eq.trans (read_append_cons (by decide) raw more)
  cases hraw : Rule.read raw with
  | error excess => simpa only [hraw] using hread
  | ok first =>
    cases hmore : Rule.read more with
    | error excess => simpa only [hraw, hmore] using hread
    | ok second =>
      simp only [hraw, hmore] at hread
      refine ⟨_, hread, rfl, rfl, fun converter title => ?_⟩
      rw [alone_and]
      rcases first.value.alone converter title with _ | _ | _ <;> rfl

/-- A pattern that cannot be read and two literals, with a wide separator and blanks of several
kinds around them. -/
theorem read_joined_fallback :
    Joins "/[/".toList "b| B".toList "\t/[/ ；\u3000b| B\n".toList ∧
      ∃ both, Rule.read "\t/[/ ；\u3000b| B\n".toList = .ok both ∧
        both.value.groups = [⟨"/[/".toList, [.pattern ['['] none]⟩,
          ⟨"b| B".toList, [.plain [['b'], ['B']]]⟩] ∧
        both.warnings = [⟨['['], .unterminatedSet, some 0⟩] ∧
        both.value.alone .identity ['[', 'b'] = .ok true := by
  have hjoins : Joins "/[/".toList "b| B".toList
      (['\t'] ++ "/[/".toList ++ [' '] ++ '；' :: (['\u3000'] ++ "b| B".toList ++ ['\n'])) :=
    .intro (by decide) (by decide) (by decide) (by decide) (by decide)
  have hfirst : Rule.read "/[/".toList = .ok ⟨⟨[⟨"/[/".toList, [.pattern ['['] none]⟩]⟩,
      [⟨['['], .unterminatedSet, some 0⟩]⟩ := by decide
  have hsecond : Rule.read "b| B".toList =
      .ok ⟨⟨[⟨"b| B".toList, [.plain [['b'], ['B']]]⟩]⟩, []⟩ := by decide
  have hboth := read_joined hjoins
  rw [hfirst, hsecond] at hboth
  obtain ⟨both, hread, hgroups, hwarnings, halone⟩ := hboth
  exact ⟨hjoins, both, hread, hgroups, hwarnings, (halone .identity ['[', 'b']).trans (by decide)⟩

end TitleSieve.Rule
