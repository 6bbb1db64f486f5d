import TitleSieve.Proofs.Evaluation.Replay
import TitleSieve.Proofs.Text.Cuts
import TitleSieve.Rule.Reading

/-!
Rules behind one another. Two texts of rules with a separator between them are read as the groups
of both. On a title the second rule is looked at only if the first one is met, so titles that are
sifted by both at once are those that are sifted by one and then by the other. Sifting by one rule
again changes nothing.
-/

namespace TitleSieve

open Evaluation

/-- The rule that asks what both rules ask, what the first one asks first. -/
def Rule.and (first second : Rule) : Rule := ⟨first.groups ++ second.groups⟩

theorem Rule.segments_append_cons {c : Char} (hc : isSeparator c = true) (first second : Text) :
    segments (first ++ c :: second) = segments first ++ segments second :=
  Text.pieces_append_cons hc first second

theorem Group.readAll_append (first second : List Text) :
    readAll (first ++ second) =
      match readAll first, readAll second with
      | .error excess, _ => .error excess
      | .ok _, .error excess => .error excess
      | .ok groups, .ok more =>
        .ok ⟨groups.value ++ more.value, groups.warnings ++ more.warnings⟩ := by
  induction first with
  | nil =>
    rw [List.nil_append, readAll]
    cases readAll second <;> rfl
  | cons segment rest ih =>
    simp only [List.cons_append, readAll, ih]
    cases Group.read segment with
    | error excess => rfl
    | ok group =>
      cases readAll rest with
      | error excess => rfl
      | ok groups =>
        cases readAll second with
        | error excess => rfl
        | ok more => simp only [List.cons_append, List.append_assoc]

/-- With a separator between their texts two rules are read as one that asks what both ask. The
first text that is refused decides. -/
theorem Rule.read_append_cons {c : Char} (hc : isSeparator c = true) (raw more : Text) :
    Rule.read (raw ++ c :: more) =
      match Rule.read raw, Rule.read more with
      | .error excess, _ => .error excess
      | .ok _, .error excess => .error excess
      | .ok first, .ok second =>
        .ok ⟨first.value.and second.value, first.warnings ++ second.warnings⟩ := by
  simp only [Rule.read, segments_append_cons hc, Group.readAll_append]
  cases Group.readAll (segments raw) with
  | error excess => rfl
  | ok groups => cases Group.readAll (segments more) <;> rfl

theorem meetsGroups_append (converter : Converter) (title : Forms) (first second : List Group) :
    meetsGroups converter title (first ++ second) =
      andThen (meetsGroups converter title first) id fun met ledger =>
        if met then meetsGroups converter title second ledger else (.ok false, ledger) := by
  induction first with
  | nil => rfl
  | cons group rest ih =>
    rw [List.cons_append, meetsGroups_cons, meetsGroups_cons, ih]
    funext ledger
    simp only [Evaluation.andThen]
    rcases meetsTerm converter title group.terms ledger with ⟨_ | _ | _, _⟩ <;> rfl

theorem Rule.alone_of_groups (converter : Converter) (rule : Rule) (title : Text)
    (h : rule.matchesAll = false) :
    rule.alone converter title =
      match Forms.of converter title with
      | .error fault => .error (.conversion fault)
      | .ok forms => (meetsGroups converter forms rule.groups (.fresh false)).1 := by
  have hfst := (Ledger.faithful_fresh converter false).forms_fst title
  have hsnd := (Ledger.faithful_fresh converter false).forms_snd title
  rw [Rule.alone, rule.accepts_of_groups converter title h, ← hfst]
  simp only [Evaluation.andThen]
  rcases hforms : Ledger.forms converter title (.fresh false) with ⟨_ | forms, ledger⟩
  · rfl
  · rw [hforms] at hsnd
    exact (halts_meetsGroups converter forms rule.groups).replays.outcome hsnd

/-- The second rule is tried on a title only if the first one is met. -/
theorem Rule.alone_and (converter : Converter) (first second : Rule) (title : Text) :
    (first.and second).alone converter title =
      match first.alone converter title with
      | .ok true => second.alone converter title
      | outcome => outcome := by
  obtain ⟨groups⟩ := first
  obtain ⟨others⟩ := second
  cases groups with
  | nil => rfl
  | cons group rest =>
    rw [Rule.alone_of_groups converter _ title rfl,
      Rule.alone_of_groups converter ⟨group :: rest⟩ title rfl]
    cases hforms : Forms.of converter title with
    | error fault => rfl
    | ok forms =>
      have hfirst := (halts_meetsGroups converter forms (group :: rest)).replays.faithful
        (Ledger.faithful_fresh converter false)
      simp only [Rule.and, meetsGroups_append, Evaluation.andThen]
      rcases hmet : meetsGroups converter forms (group :: rest) (.fresh false) with
        ⟨_ | _ | _, ledger⟩
      · rfl
      · rfl
      · rw [hmet] at hfirst
        simp only [if_true]
        rw [(halts_meetsGroups converter forms others).replays.outcome hfirst]
        cases others with
        | nil => rfl
        | cons other more => rw [Rule.alone_of_groups converter ⟨other :: more⟩ title rfl, hforms]

/-- The titles that meet a rule, in their order; the first title whose trial fails decides. -/
def Rule.sift (converter : Converter) (rule : Rule) : List Text → Except EvaluationFault (List Text)
  | [] => .ok []
  | title :: rest =>
    match rule.alone converter title with
    | .error fault => .error fault
    | .ok visible =>
      (sift converter rule rest).map fun kept => if visible then title :: kept else kept

variable {converter : Converter} {rule first second : Rule} {title : Text} {titles kept : List Text}

theorem Rule.sift_cons_eq_ok_iff :
    rule.sift converter (title :: titles) = .ok kept ↔
      ∃ visible more, rule.alone converter title = .ok visible ∧
        rule.sift converter titles = .ok more ∧
        kept = if visible then title :: more else more := by
  rw [sift]
  cases rule.alone converter title with
  | error fault => simp
  | ok visible =>
    cases sift converter rule titles with
    | error fault => simp [Except.map]
    | ok more => simp [Except.map, eq_comm]

theorem Rule.alone_of_sift (h : rule.sift converter titles = .ok kept) (htitle : title ∈ titles) :
    ∃ visible, rule.alone converter title = .ok visible := by
  induction titles generalizing kept with
  | nil => cases htitle
  | cons head rest ih =>
    obtain ⟨visible, more, hhead, hrest, -⟩ := sift_cons_eq_ok_iff.mp h
    rcases List.mem_cons.mp htitle with rfl | htitle
    · exact ⟨visible, hhead⟩
    · exact ih hrest htitle

theorem Rule.mem_of_mem_sift (h : rule.sift converter titles = .ok kept) (htitle : title ∈ kept) :
    title ∈ titles := by
  induction titles generalizing kept with
  | nil =>
    obtain rfl : _ = kept := Except.ok.inj h
    exact htitle
  | cons head rest ih =>
    obtain ⟨visible, more, -, hrest, rfl⟩ := sift_cons_eq_ok_iff.mp h
    cases visible with
    | false => exact List.mem_cons_of_mem head (ih hrest htitle)
    | true =>
      rcases List.mem_cons.mp htitle with rfl | htitle
      · exact List.mem_cons_self
      · exact List.mem_cons_of_mem head (ih hrest htitle)

/-- What a rule keeps it keeps again. -/
theorem Rule.sift_kept (h : rule.sift converter titles = .ok kept) :
    rule.sift converter kept = .ok kept := by
  induction titles generalizing kept with
  | nil =>
    obtain rfl : _ = kept := Except.ok.inj h
    rfl
  | cons head rest ih =>
    obtain ⟨visible, more, hhead, hrest, rfl⟩ := sift_cons_eq_ok_iff.mp h
    cases visible with
    | false => exact ih hrest
    | true => exact sift_cons_eq_ok_iff.mpr ⟨true, more, hhead, ih hrest, rfl⟩

/-- Sifting by one rule and then by another is sifting by what both ask. -/
theorem Rule.sift_and {left : List Text} (hfirst : first.sift converter titles = .ok kept)
    (hsecond : second.sift converter kept = .ok left) :
    (first.and second).sift converter titles = .ok left := by
  induction titles generalizing kept left with
  | nil =>
    obtain rfl : _ = kept := Except.ok.inj hfirst
    exact hsecond
  | cons head rest ih =>
    obtain ⟨visible, more, hhead, hrest, rfl⟩ := sift_cons_eq_ok_iff.mp hfirst
    cases visible with
    | false =>
      have hboth : (first.and second).alone converter head = .ok false := by
        rw [alone_and, hhead]
      exact sift_cons_eq_ok_iff.mpr ⟨false, left, hboth, ih hrest hsecond, rfl⟩
    | true =>
      obtain ⟨met, others, hmet, hothers, rfl⟩ := sift_cons_eq_ok_iff.mp hsecond
      have hboth : (first.and second).alone converter head = .ok met := by
        rw [alone_and, hhead, hmet]
      exact sift_cons_eq_ok_iff.mpr ⟨met, others, hboth, ih hrest hothers, rfl⟩

end TitleSieve
