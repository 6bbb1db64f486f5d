import TitleSieve.Pass.Basic
import TitleSieve.Proofs.Rule.Image
import TitleSieve.Rule.Description

/-!
The description of a rule as a preview of its passes. A description leaves out the trees of
patterns, but a tree is what the body is read as, so among rules that are read from texts the
description of a term tells the term. The sources of groups are not looked at in a pass. So two
rules whose descriptions differ in sources only do the same in every pass. A pattern that is
described as invalid is one that is kept as a literal, and each of these has left one warning.
-/

namespace TitleSieve

open Pattern

/-- The two descriptions differ in the sources of groups at most. -/
def RuleDescription.Agrees (first second : RuleDescription) : Prop :=
  first.matchesAll = second.matchesAll ∧
    first.groups.map GroupDescription.terms = second.groups.map GroupDescription.terms

instance (first second : RuleDescription) : Decidable (first.Agrees second) :=
  inferInstanceAs (Decidable (_ ∧ _))

/-- A pattern that could not be read. -/
def TermDescription.isInvalid : TermDescription → Bool
  | .pattern _ false => true
  | _ => false

def RuleDescription.invalidCount (description : RuleDescription) : Nat :=
  (description.groups.flatMap GroupDescription.terms).countP TermDescription.isInvalid

/-- The term that is described so, if it has been read from a text. -/
def TermDescription.term : TermDescription → Term
  | .plain alternatives => .plain alternatives
  | .pattern body valid => .pattern body (if valid then (Tree.read body).toOption else none)

theorem Term.ReadAs.term_of_describe? {source : Text} {term : Term} (h : Term.ReadAs source term) :
    term.describe?.map TermDescription.term = some term := by
  cases h with
  | @pattern body tree hbody hsource htree =>
    have hsome : (Tree.read body).toOption = some tree := by rw [htree]; rfl
    simp only [Term.describe?, Option.isSome_some, Option.map_some, TermDescription.term, if_true,
      hsome]
  | fallback hbody hsource hfault => rfl
  | plain hsource => rfl

theorem Group.Follows.map_term_describe {group : Group} (h : group.Follows) :
    group.describe.terms.map TermDescription.term = group.terms := by
  obtain ⟨term, hterms, hreadAs⟩ := h
  rw [Group.describe, hterms, List.map_filterMap, List.filterMap_cons, hreadAs.term_of_describe?]
  rfl

/-- Rules that differ in the sources of groups at most. -/
def Rule.SameTerms (first second : Rule) : Prop :=
  first.groups.map Group.terms = second.groups.map Group.terms

/-- The description of a rule that has been read tells its terms. -/
theorem Rule.sameTerms_of_agrees {raw more : Text} {rule other : Warned Rule}
    (hrule : Rule.read raw = .ok rule) (hother : Rule.read more = .ok other)
    (h : rule.value.describe.Agrees other.value.describe) : rule.value.SameTerms other.value := by
  have htold : ∀ {t : Text} {read : Warned Rule}, Rule.read t = .ok read →
      (read.value.describe.groups.map GroupDescription.terms).map
        (·.map TermDescription.term) = read.value.groups.map Group.terms := by
    intro t read hread
    rw [Rule.describe, List.map_map, List.map_map]
    exact List.map_congr_left fun group hgroup =>
      (Rule.canonical_of_read hread group hgroup).follows.map_term_describe
  rw [Rule.SameTerms, ← htold hrule, h.2, htold hother]

theorem meetsGroups_congr (converter : Converter) (title : Forms) {first second : List Group}
    (h : first.map Group.terms = second.map Group.terms) :
    meetsGroups converter title first = meetsGroups converter title second := by
  induction first generalizing second with
  | nil =>
    obtain rfl : second = [] := List.map_eq_nil_iff.mp h.symm
    rfl
  | cons group rest ih =>
    obtain ⟨other, more, rfl, hterms, hrest⟩ := List.map_eq_cons_iff.mp h.symm
    rw [meetsGroups_cons, meetsGroups_cons, hterms, ih hrest.symm]

namespace Rule.SameTerms

variable {first second : Rule}

theorem matchesAll_eq (h : first.SameTerms second) : first.matchesAll = second.matchesAll := by
  have hlength : first.groups.length = second.groups.length := by
    rw [← List.length_map Group.terms, h, List.length_map]
  rw [Rule.matchesAll, Rule.matchesAll, Bool.eq_iff_iff, List.isEmpty_iff_length_eq_zero, hlength,
    List.isEmpty_iff_length_eq_zero]

/-- A trial does the same by either rule, whatever is known beforehand. -/
theorem accepts_eq (h : first.SameTerms second) (converter : Converter) (title : Text) :
    first.accepts converter title = second.accepts converter title := by
  funext ledger
  simp only [Rule.accepts, h.matchesAll_eq, meetsGroups_congr converter _ h]

variable {H : Type} [HandleKind H]

theorem decide_eq (h : first.SameTerms second) (converter : Converter)
    (decided : List (Decision H)) (candidates : List (Candidate H)) (ledger : Ledger) :
    Pass.decide converter first decided candidates ledger =
      Pass.decide converter second decided candidates ledger := by
  induction candidates generalizing decided ledger with
  | nil => rfl
  | cons candidate rest ih =>
    simp only [Pass.decide, h.accepts_eq, ih]

theorem fallbackCount_eq (h : first.SameTerms second) :
    first.fallbackCount = second.fallbackCount := by
  rw [Rule.fallbackCount, Rule.fallbackCount, List.flatMap_def, List.flatMap_def, h]

omit [HandleKind H] in
theorem summarize_eq (h : first.SameTerms second) (decisions : List (Decision H)) :
    Pass.summarize first decisions = Pass.summarize second decisions := by
  have hcount : first.groupCount = second.groupCount := by
    rw [Rule.groupCount, ← List.length_map Group.terms, h, List.length_map, Rule.groupCount]
  rw [Pass.summarize, hcount, h.fallbackCount_eq, Pass.summarize]

/-- A pass does the same by either rule: it asks for the same texts in the same order. -/
theorem ofRule_eq (h : first.SameTerms second) (converter : Converter)
    (candidates : List (Candidate H)) (ledger : Ledger) :
    Pass.ofRule converter first candidates ledger =
      Pass.ofRule converter second candidates ledger := by
  simp only [Pass.ofRule, h.decide_eq, h.summarize_eq]

end Rule.SameTerms

/-- The body of a pattern that is kept as a literal. -/
def Term.fallback? : Term → Option Text
  | .pattern body none => some body
  | _ => none

theorem Term.isSome_fallback? (term : Term) : term.fallback?.isSome = term.isFallback := by
  cases term with
  | pattern body tree => cases tree <;> rfl
  | plain alternatives => rfl
  | unknown kind => rfl

def Rule.fallbacks (rule : Rule) : List Text :=
  (rule.groups.flatMap Group.terms).filterMap Term.fallback?

theorem Rule.length_fallbacks (rule : Rule) : rule.fallbacks.length = rule.fallbackCount := by
  rw [Rule.fallbacks, List.length_filterMap_eq_countP, Rule.fallbackCount]
  simp only [Term.isSome_fallback?]

/-- A term warns if it is kept as a literal, and then of its body. -/
theorem Term.body_warnings {segment : Text} {term : Warned Term}
    (h : Term.read segment = .ok term) :
    term.warnings.map Warning.body = term.value.fallback?.toList := by
  unfold Term.read at h
  cases hbody : Rule.patternBody? segment with
  | none =>
    rw [hbody] at h
    obtain rfl := Except.ok.inj h
    rfl
  | some body =>
    simp only [hbody, Term.readPattern] at h
    rcases htree : Tree.read body with (⟨cause, position⟩ | excess) | tree
    · rw [htree] at h
      obtain rfl := Except.ok.inj h
      rfl
    · rw [htree] at h
      cases h
    · rw [htree] at h
      obtain rfl := Except.ok.inj h
      rfl

theorem Group.body_warnings {segment : Text} {group : Warned Group}
    (h : Group.read segment = .ok group) :
    group.warnings.map Warning.body = group.value.terms.filterMap Term.fallback? := by
  unfold Group.read at h
  cases hterm : Term.read segment with
  | error excess =>
    rw [hterm] at h
    cases h
  | ok term =>
    rw [hterm] at h
    obtain rfl := Except.ok.inj h
    rw [Term.body_warnings hterm, List.filterMap_cons]
    cases term.value.fallback? <;> rfl

theorem Group.body_warnings_readAll {segments : List Text} {groups : Warned (List Group)}
    (h : Group.readAll segments = .ok groups) :
    groups.warnings.map Warning.body =
      (groups.value.flatMap Group.terms).filterMap Term.fallback? := by
  induction segments generalizing groups with
  | nil =>
    obtain rfl := Except.ok.inj h
    rfl
  | cons segment rest ih =>
    unfold Group.readAll at h
    cases hgroup : Group.read segment with
    | error excess =>
      rw [hgroup] at h
      cases h
    | ok group =>
      cases hrest : Group.readAll rest with
      | error excess =>
        rw [hgroup, hrest] at h
        cases h
      | ok more =>
        rw [hgroup, hrest] at h
        obtain rfl := Except.ok.inj h
        rw [List.map_append, Group.body_warnings hgroup, ih hrest, List.flatMap_cons,
          List.filterMap_append]

/-- There is one warning for each pattern that is kept as a literal, in order. -/
theorem Rule.body_warnings {raw : Text} {rule : Warned Rule} (h : Rule.read raw = .ok rule) :
    rule.warnings.map Warning.body = rule.value.fallbacks := by
  unfold Rule.read at h
  cases hgroups : Group.readAll (Rule.segments raw) with
  | error excess =>
    rw [hgroups] at h
    cases h
  | ok groups =>
    rw [hgroups] at h
    obtain rfl := Except.ok.inj h
    exact Group.body_warnings_readAll hgroups

/-- The patterns that are described as invalid are those that are kept as literals. -/
theorem Rule.invalidCount_describe (rule : Rule) :
    rule.describe.invalidCount = rule.fallbackCount := by
  have hterm : ∀ term : Term,
      (term.describe?.map TermDescription.isInvalid).getD false = term.isFallback := by
    intro term
    cases term with
    | pattern body tree => cases tree <;> rfl
    | plain alternatives => rfl
    | unknown kind => rfl
  calc
    rule.describe.invalidCount =
        ((rule.groups.flatMap Group.terms).filterMap Term.describe?).countP
          TermDescription.isInvalid := by
      rw [RuleDescription.invalidCount, Rule.describe, List.flatMap_map, List.filterMap_flatMap]
      rfl
    _ = rule.fallbackCount := by
      rw [List.countP_filterMap, Rule.fallbackCount]
      simp only [hterm]

namespace Rule

/-- What a rule is described as settles what it does. If the descriptions of two rules that have
been read agree, sources aside, then every pass by the one is the pass by the other: over the same
candidates it comes to the same decisions and counts or to the same fault, and it asks the converter
for the same texts in the same order, whether forms are kept or not. And of every rule that has been
read as many patterns are described as invalid as there have been warnings, which is as many as are
taken as literals. -/
theorem describe_settles_passes {raw : Text} {rule : Warned Rule}
    (hrule : Rule.read raw = .ok rule) :
    (∀ more other, Rule.read more = .ok other →
      rule.value.describe.Agrees other.value.describe →
        rule.value.fallbackCount = other.value.fallbackCount ∧
        ∀ {H : Type} [HandleKind H] converter caching (candidates : List (Candidate H)),
          Pass.run converter caching (some raw) candidates =
            Pass.run converter caching (some more) candidates) ∧
      rule.value.describe.invalidCount = rule.warnings.length ∧
      rule.warnings.length = rule.value.fallbackCount := by
  have hwarnings : rule.warnings.length = rule.value.fallbackCount := by
    rw [← length_fallbacks, ← body_warnings hrule, List.length_map]
  refine ⟨fun more other hother hagrees => ?_, ?_, hwarnings⟩
  · have hsame := sameTerms_of_agrees hrule hother hagrees
    refine ⟨hsame.fallbackCount_eq, fun {H} _ converter caching candidates => ?_⟩
    simp only [Pass.run, readGiven, Option.getD_some, hrule, hother, hsame.ofRule_eq]
  · rw [hwarnings, invalidCount_describe]

/-- A pattern that cannot be read, one that can, and two literals from this source. -/
def threeKinds (source : Text) : Warned Rule :=
  ⟨⟨[⟨"/[/".toList, [.pattern ['['] none]⟩,
    ⟨"/b/".toList, [.pattern ['b'] (Tree.read ['b']).toOption]⟩,
    ⟨source, [.plain [['c'], ['d']]]⟩]⟩, [⟨['['], .unterminatedSet, some 0⟩]⟩

/-- One rule in two spellings. The title meets the two patterns, and the converter fails on the
first literal. -/
theorem describe_settles_passes_of_three :
    let raw := "/[/; /b/ ；c|d".toList
    let more := ";/[/；/b/;;| c|d|".toList
    let refusing := Converter.ofTable ⟨[], [], some ['c'], none⟩
    let candidates : List (Candidate Handle) := [⟨.null, ['[', 'B']⟩]
    Rule.read raw = .ok (threeKinds "c|d".toList) ∧
      Rule.read more = .ok (threeKinds "| c|d|".toList) ∧
      (threeKinds "c|d".toList).value.describe.Agrees
        (threeKinds "| c|d|".toList).value.describe ∧
      Pass.run refusing true (some raw) candidates = Pass.run refusing true (some more) candidates ∧
      (Pass.run refusing true (some raw) candidates).1 =
        .error (.evaluation (.conversion (.variantA ['c']))) ∧
      (Pass.run refusing true (some more) candidates).2.submitted =
        [['[', 'B'], ['['], ['c']] ∧
      (threeKinds "c|d".toList).value.describe.invalidCount = 1 := by
  intro raw more refusing candidates
  have hraw : Rule.read raw = .ok (threeKinds "c|d".toList) := by decide
  have hmore : Rule.read more = .ok (threeKinds "| c|d|".toList) := by decide
  have hagrees : (threeKinds "c|d".toList).value.describe.Agrees
      (threeKinds "| c|d|".toList).value.describe := by decide
  obtain ⟨hpasses, hinvalid, -⟩ := describe_settles_passes hraw
  obtain ⟨-, hrun⟩ := hpasses more _ hmore hagrees
  have hsubmitted : (Pass.run refusing true (some raw) candidates).2.submitted =
      [['[', 'B'], ['['], ['c']] := by decide
  exact ⟨hraw, hmore, hagrees, hrun refusing true candidates, rfl,
    (hrun refusing true candidates) ▸ hsubmitted, hinvalid⟩

end Rule

end TitleSieve
