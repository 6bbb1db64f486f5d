import TitleSieve.Proofs.Rule.Alternatives
import TitleSieve.Proofs.Rule.Image

/-!
Rules that are written. Groups of literals are written with a bar in front of every group and
between its literals, and with a separator between groups. The bar in front keeps a group without
literals from being empty, and keeps a literal that begins with a slash from opening a pattern. So
what is written is read back: each group as one list, with its literals and no others.
-/

namespace TitleSieve.Rule

open Text

/-- The text can stand between bars: it is not empty, has no blank at either end, and holds neither
a separator nor a bar. It may begin and end with a slash. -/
structure IsWritable (t : Text) : Prop where
  ne_nil : t ≠ []
  trimmed : trim t = t
  no_separator : ∀ c ∈ t, isSeparator c = false
  no_bar : '|' ∉ t

theorem isWritable_iff {t : Text} :
    IsWritable t ↔ t ≠ [] ∧ trim t = t ∧ t.all (!isSeparator ·) = true ∧ '|' ∉ t := by
  rw [List.all_eq_true]
  simp only [Bool.not_eq_true']
  constructor
  · rintro ⟨hne, htrim, hseparator, hbar⟩
    exact ⟨hne, htrim, hseparator, hbar⟩
  · rintro ⟨hne, htrim, hseparator, hbar⟩
    exact ⟨hne, htrim, hseparator, hbar⟩

instance (t : Text) : Decidable (IsWritable t) := decidable_of_iff _ isWritable_iff.symm

/-- A group with these literals. -/
def writeGroup (literals : List Text) : Text := '|' :: joinWith ['|'] literals

/-- Groups with these literals, one after the other. -/
def write (groups : List (List Text)) : Text := joinWith [';'] (groups.map writeGroup)

def ofLists (groups : List (List Text)) : Rule :=
  ⟨groups.map fun literals => ⟨writeGroup literals, [.plain literals]⟩⟩

variable {literals : List Text} {groups : List (List Text)}

/-- The bar in front and those between the literals cut the group into its literals. -/
theorem literals_writeGroup (h : ∀ literal ∈ literals, IsWritable literal) :
    Rule.literals (writeGroup literals) = literals := by
  have hpieces : ∀ literal ∈ literals, IsPiece (· == '|') literal := by
    intro literal hliteral
    have hwritable := h literal hliteral
    refine ⟨hwritable.ne_nil, hwritable.trimmed, fun c hc => ?_⟩
    rw [beq_eq_false_iff_ne]
    rintro rfl
    exact hwritable.no_bar hc
  calc
    Rule.literals (writeGroup literals) =
        pieces (· == '|') [] ++ pieces (· == '|') (joinWith ['|'] literals) :=
      pieces_append_cons rfl [] (joinWith ['|'] literals)
    _ = pieces (· == '|') (joinWith ['|'] literals) := rfl
    _ = literals := pieces_joinWith isBar_of_isBlank rfl rfl literals hpieces

/-- What is put together ends as one of the texts or as what stands between them. -/
theorem mem_getLast?_joinWith {glue : Text} {ts : List Text} {c : Char}
    (h : c ∈ (joinWith glue ts).getLast?) : c ∈ glue.getLast? ∨ ∃ t ∈ ts, c ∈ t.getLast? := by
  induction ts with
  | nil => cases h
  | cons t rest ih =>
    cases rest with
    | nil => exact .inr ⟨t, List.mem_cons_self, h⟩
    | cons next more =>
      have hends : c ∈ (joinWith glue (next :: more)).getLast? ∨ c ∈ glue.getLast? ∨
          c ∈ t.getLast? := by
        rw [joinWith, List.getLast?_append, List.getLast?_append] at h
        rcases Option.or_eq_some_iff.mp h with h | ⟨-, h⟩
        · exact .inl h
        · exact .inr ((Option.or_eq_some_iff.mp h).imp id And.right)
      rcases hends with hrest | hglue | ht
      · rcases ih hrest with hglue | ⟨u, hu, hc⟩
        · exact .inl hglue
        · exact .inr ⟨u, List.mem_cons_of_mem t hu, hc⟩
      · exact .inl hglue
      · exact .inr ⟨t, List.mem_cons_self, ht⟩

/-- A written group is one segment: a bar begins it, and a literal or a bar ends it. -/
theorem isPiece_writeGroup (h : ∀ literal ∈ literals, IsWritable literal) :
    IsPiece isSeparator (writeGroup literals) := by
  refine ⟨List.cons_ne_nil _ _, (trim_eq_self_iff _).mpr ⟨?_, ?_⟩, ?_⟩
  · intro c hc
    obtain rfl : '|' = c := Option.some.inj hc
    decide
  · intro c hc
    have hends : c = '|' ∨ c ∈ (joinWith ['|'] literals).getLast? := by
      rw [writeGroup, List.getLast?_cons] at hc
      cases hlast : (joinWith ['|'] literals).getLast? with
      | none =>
        rw [hlast] at hc
        exact .inl (Option.some.inj hc).symm
      | some last =>
        rw [hlast] at hc
        exact .inr hc
    have hbar : isBlank '|' = false := by decide
    rcases hends with rfl | hc
    · exact hbar
    · rcases mem_getLast?_joinWith hc with hc | ⟨literal, hliteral, hc⟩
      · obtain rfl : '|' = c := Option.some.inj hc
        exact hbar
      · exact ((trim_eq_self_iff literal).mp (h literal hliteral).trimmed).2 c hc
  · intro c hc
    have hbar : isSeparator '|' = false := by decide
    rcases List.mem_cons.mp hc with rfl | hc
    · exact hbar
    · rcases mem_joinWith hc with hc | ⟨literal, hliteral, hc⟩
      · rw [List.mem_singleton.mp hc]
        exact hbar
      · exact (h literal hliteral).no_separator c hc

/-- No slash begins a written group, so it is no pattern. -/
theorem patternBody?_writeGroup (literals : List Text) :
    patternBody? (writeGroup literals) = none := by
  refine patternBody?_eq_none_iff.mpr fun body _ heq => ?_
  exact absurd (List.cons.inj heq).1 (by decide)

theorem readAll_writeGroup (h : ∀ literals ∈ groups, ∀ literal ∈ literals, IsWritable literal) :
    Group.readAll (groups.map writeGroup) = .ok ⟨(ofLists groups).groups, []⟩ := by
  induction groups with
  | nil => rfl
  | cons literals rest ih =>
    rw [List.forall_mem_cons] at h
    have hfirst : Group.read (writeGroup literals) =
        .ok ⟨⟨writeGroup literals, [.plain literals]⟩, []⟩ := by
      simp only [Group.read, Term.read, patternBody?_writeGroup, literals_writeGroup h.1]
    simp only [List.map_cons, Group.readAll, hfirst, ih h.2]
    rfl

/-- Every choice of literals for every group can be written. What is written is read without a
warning as one group for each list, in order, and the one term of a group lists the literals of its
list and nothing else. Lists may be empty, and literals may begin and end with slashes. -/
theorem read_write (h : ∀ literals ∈ groups, ∀ literal ∈ literals, IsWritable literal) :
    Rule.read (write groups) = .ok ⟨ofLists groups, []⟩ := by
  have hpieces : ∀ written ∈ groups.map writeGroup, IsPiece isSeparator written := by
    intro written hwritten
    obtain ⟨literals, hliterals, rfl⟩ := List.mem_map.mp hwritten
    exact isPiece_writeGroup (h literals hliterals)
  have hsegments : segments (write groups) = groups.map writeGroup :=
    pieces_joinWith isSeparator_of_isBlank rfl rfl _ hpieces
  rw [Rule.read, hsegments, readAll_writeGroup h]

/-- A literal that would be a pattern by itself, a group without literals, and two literals that
would make a pattern together. -/
theorem read_write_slashes :
    (∀ literals ∈ [["/[/".toList], [], ["/a".toList, "b c/".toList]],
        ∀ literal ∈ literals, IsWritable literal) ∧
      Rule.read "|/[/;|;|/a|b c/".toList =
        .ok ⟨⟨[⟨"|/[/".toList, [.plain ["/[/".toList]]⟩, ⟨['|'], [.plain []]⟩,
          ⟨"|/a|b c/".toList, [.plain ["/a".toList, "b c/".toList]]⟩]⟩, []⟩ := by
  have hwritable : ∀ literals ∈ [["/[/".toList], [], ["/a".toList, "b c/".toList]],
      ∀ literal ∈ literals, IsWritable literal := by decide
  exact ⟨hwritable, read_write hwritable⟩

end TitleSieve.Rule
