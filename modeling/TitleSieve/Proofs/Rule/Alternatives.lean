import TitleSieve.Proofs.Rule.Joining

/-!
Lists of literals with a bar between them. Two texts that are read as lists of literals are read,
with a bar between them, as one list: the literals of the first text and behind them those of the
second. Literals are tried in order and no further than needed, so a title is tried on the second
text only if it meets no literal of the first one. The two texts and the bar must not make a pattern
together.
-/

namespace TitleSieve

open Text Evaluation

theorem meetsLiteral_append (converter : Converter) (title : Forms) (first second : List Text) :
    meetsLiteral converter title (first ++ second) =
      andThen (meetsLiteral converter title first) id fun met ledger =>
        if met then (.ok true, ledger) else meetsLiteral converter title second ledger := by
  induction first with
  | nil => rfl
  | cons literal rest ih =>
    rw [List.cons_append, meetsLiteral_cons, meetsLiteral_cons, ih]
    funext ledger
    simp only [Evaluation.andThen]
    rcases Ledger.forms converter literal ledger with ⟨fault | forms, next⟩
    · rfl
    · by_cases hmeets : title.meets forms <;> simp [hmeets]

namespace Rule

def ofLiterals (source : Text) (alternatives : List Text) : Rule :=
  ⟨[⟨source, [.plain alternatives]⟩]⟩

theorem alone_ofLiterals (converter : Converter) (source : Text) (alternatives : List Text)
    (title : Text) :
    (ofLiterals source alternatives).alone converter title =
      match Forms.of converter title with
      | .error fault => .error (.conversion fault)
      | .ok forms => (meetsLiteral converter forms alternatives (.fresh false)).1 := by
  rw [alone_of_groups converter _ title rfl]
  cases Forms.of converter title with
  | error fault => rfl
  | ok forms =>
    simp only [ofLiterals, meetsGroups, meetsTerm, Term.metBy]
    rcases meetsLiteral converter forms alternatives (.fresh false) with ⟨_ | _ | _, _⟩ <;> rfl

/-- Further literals are tried on a title only if it meets none of the first ones. -/
theorem alone_ofLiterals_append (converter : Converter) (source source' source'' : Text)
    (first second : List Text) (title : Text) :
    (ofLiterals source (first ++ second)).alone converter title =
      match (ofLiterals source' first).alone converter title with
      | .error fault => .error fault
      | .ok true => .ok true
      | .ok false => (ofLiterals source'' second).alone converter title := by
  simp only [alone_ofLiterals]
  cases Forms.of converter title with
  | error fault => rfl
  | ok forms =>
    have hfirst := (halts_meetsLiteral converter forms first).replays.faithful
      (Ledger.faithful_fresh converter false)
    simp only [meetsLiteral_append, Evaluation.andThen]
    rcases hmet : meetsLiteral converter forms first (.fresh false) with ⟨_ | _ | _, ledger⟩
    · rfl
    · rw [hmet] at hfirst
      exact (halts_meetsLiteral converter forms second).replays.outcome hfirst
    · rfl

/-- The text is read as one list of literals: it is not blank, it holds no separator, and without
the blanks around it it does not have the form of a pattern. -/
structure ListsLiterals (t : Text) : Prop where
  not_blank : isAllBlank t = false
  no_separator : ∀ c ∈ t, isSeparator c = false
  no_pattern : patternBody? (trim t) = none

theorem listsLiterals_iff {t : Text} :
    ListsLiterals t ↔ isAllBlank t = false ∧ t.all (!isSeparator ·) = true ∧
      patternBody? (trim t) = none := by
  rw [List.all_eq_true]
  simp only [Bool.not_eq_true']
  constructor
  · rintro ⟨hblank, hseparator, hpattern⟩
    exact ⟨hblank, hseparator, hpattern⟩
  · rintro ⟨hblank, hseparator, hpattern⟩
    exact ⟨hblank, hseparator, hpattern⟩

instance (t : Text) : Decidable (ListsLiterals t) := decidable_of_iff _ listsLiterals_iff.symm

theorem isBar_of_isBlank (c : Char) (hc : isBlank c = true) : (c == '|') = false :=
  beq_eq_false_of_isBlank hc (by decide)

theorem ListsLiterals.read_eq {t : Text} (h : ListsLiterals t) :
    Rule.read t = .ok ⟨ofLiterals (trim t) (literals t), []⟩ := by
  have hsegments : segments t = [trim t] := pieces_of_forall h.not_blank h.no_separator
  have hliterals : literals (trim t) = literals t := pieces_trim isBar_of_isBlank t
  simp only [Rule.read, hsegments, Group.readAll, Group.read, Term.read, h.no_pattern, hliterals]
  rfl

/-- Two texts with a bar between them are one list of literals if each of them is one, as long as
they do not make a pattern. -/
theorem ListsLiterals.append_cons {first second : Text} (hfirst : ListsLiterals first)
    (hsecond : ListsLiterals second)
    (hpattern : patternBody? (trim (first ++ '|' :: second)) = none) :
    ListsLiterals (first ++ '|' :: second) where
  not_blank := by
    rw [isAllBlank, List.all_append, List.all_cons, show isBlank '|' = false by decide,
      Bool.false_and, Bool.and_false]
  no_separator := by
    rw [List.forall_mem_append, List.forall_mem_cons]
    exact ⟨hfirst.no_separator, by decide, hsecond.no_separator⟩
  no_pattern := hpattern

/-- A text of bars and blanks lists no literal. -/
theorem literals_eq_nil {t : Text} (h : ∀ c ∈ t, isBlank c = true ∨ c = '|') : literals t = [] := by
  refine (pieces_eq_nil_iff isBar_of_isBlank t).mpr fun c hc => ?_
  rw [beq_iff_eq]
  exact h c hc

/-- A bar between two lists of literals asks for a literal of either. What is read is one group with
one term, the literals of the first text and then those of the second, without a warning. A title
that meets the first text meets both together, one whose trial on the first text fails fails with
the same fault, and what becomes of any other title is what the second text makes of it. A text of
bars and blanks adds nothing. -/
theorem read_beside_bar {first second : Text} (hfirst : ListsLiterals first)
    (hsecond : ListsLiterals second)
    (hpattern : patternBody? (trim (first ++ '|' :: second)) = none) :
    let one := ofLiterals (trim first) (literals first)
    let other := ofLiterals (trim second) (literals second)
    let both := ofLiterals (trim (first ++ '|' :: second)) (literals first ++ literals second)
    Rule.read first = .ok ⟨one, []⟩ ∧ Rule.read second = .ok ⟨other, []⟩ ∧
      Rule.read (first ++ '|' :: second) = .ok ⟨both, []⟩ ∧
      (∀ converter title, both.alone converter title =
        match one.alone converter title with
        | .error fault => .error fault
        | .ok true => .ok true
        | .ok false => other.alone converter title) ∧
      ((∀ c ∈ first, isBlank c = true ∨ c = '|') → literals first = [] ∧
        ∀ converter title, both.alone converter title = other.alone converter title) ∧
      ((∀ c ∈ second, isBlank c = true ∨ c = '|') → literals second = [] ∧
        ∀ converter title, both.alone converter title = one.alone converter title) := by
  intro one other both
  have hread := (hfirst.append_cons hsecond hpattern).read_eq
  have hliterals : literals (first ++ '|' :: second) = literals first ++ literals second :=
    pieces_append_cons (by decide) first second
  rw [hliterals] at hread
  refine ⟨hfirst.read_eq, hsecond.read_eq, hread,
    fun converter title => alone_ofLiterals_append .., fun hbars => ?_, fun hbars => ?_⟩
  · have hnil := literals_eq_nil hbars
    refine ⟨hnil, fun converter title => ?_⟩
    simp only [both, other, hnil, List.nil_append, alone_ofLiterals]
  · have hnil := literals_eq_nil hbars
    refine ⟨hnil, fun converter title => ?_⟩
    simp only [both, one, hnil, List.append_nil, alone_ofLiterals]

/-- Slashes at one end of either text do not make a pattern, and an empty literal is passed over. -/
theorem read_beside_bar_slashes :
    ListsLiterals " /a ".toList ∧ ListsLiterals "| B/x|".toList ∧
      Rule.read " /a || B/x|".toList =
        .ok ⟨ofLiterals "/a || B/x|".toList ["/a".toList, "B/x".toList], []⟩ ∧
      (ofLiterals "/a || B/x|".toList ["/a".toList, "B/x".toList]).alone .identity
        "zb/X".toList = .ok true := by
  have hfirst : ListsLiterals " /a ".toList := by decide
  have hsecond : ListsLiterals "| B/x|".toList := by decide
  obtain ⟨-, -, hread, halone, -⟩ := read_beside_bar hfirst hsecond (by decide)
  exact ⟨hfirst, hsecond, hread, (halone .identity "zb/X".toList).trans (by decide)⟩

end Rule

end TitleSieve
