import TitleSieve.Proofs.Evaluation.Replay
import TitleSieve.Proofs.Text.Cuts

/-!
What a rule means. A trial that does not end in a fault of one of the texts is a matter of forms
only: every group needs a term that the forms of the title meet. Meeting a term is read off the
text: a pattern is found in one of the forms, or one of the forms of a literal is a contiguous part
of one of them. The order of trying, the early stops and the ledger leave no trace in the value.
-/

namespace TitleSieve

/-- The literals that a term is compared by; a pattern without a tree has its whole body. -/
def Term.literals : Term → List Text
  | .plain alternatives => alternatives
  | .pattern body none => [body]
  | .pattern _ (some _) | .unknown _ => []

/-- Every term is a list of literals or a pattern. -/
def Rule.Known (rule : Rule) : Prop :=
  ∀ group ∈ rule.groups, ∀ term ∈ group.terms, ∀ kind, term ≠ .unknown kind

def Rule.allLiterals (rule : Rule) : List Text :=
  rule.groups.flatMap fun group => group.terms.flatMap Term.literals

def Term.meets (formsOf : Text → Forms) (title : Forms) : Term → Bool
  | .pattern _ (some tree) => tree.foundInForms title
  | term => term.literals.any fun literal => title.meets (formsOf literal)

def Group.meets (formsOf : Text → Forms) (title : Forms) (group : Group) : Bool :=
  group.terms.any (Term.meets formsOf title)

def Rule.meets (formsOf : Text → Forms) (title : Forms) (rule : Rule) : Bool :=
  rule.groups.all (Group.meets formsOf title)

/-- The fault of a text on which the converter fails. -/
def Converter.FailsOn (converter : Converter) (text : Text) (fault : EvaluationFault) : Prop :=
  ∃ cause, Forms.of converter text = .error cause ∧ fault = .conversion cause

/-- The fault of a literal of the term, or of its kind. -/
def Term.FailsWith (converter : Converter) (fault : EvaluationFault) (term : Term) : Prop :=
  (∃ literal ∈ term.literals, converter.FailsOn literal fault) ∨
    ∃ kind, term = .unknown kind ∧ fault = .unknownTerm kind

def Group.FailsWith (converter : Converter) (fault : EvaluationFault) (group : Group) : Prop :=
  ∃ term ∈ group.terms, term.FailsWith converter fault

/-- A trial comes to this value or to one of these faults. -/
def ComesTo (value : Bool) (faults : EvaluationFault → Prop) : Except EvaluationFault Bool → Prop
  | .ok met => met = value
  | .error fault => faults fault

theorem ComesTo.weaken {value : Bool} {faults faults' : EvaluationFault → Prop}
    {outcome : Except EvaluationFault Bool} (h : ComesTo value faults outcome)
    (hle : ∀ fault, faults fault → faults' fault) : ComesTo value faults' outcome := by
  cases outcome with
  | error fault => exact hle fault h
  | ok met => exact h

/-- These are the forms of the text, unless the converter fails on it. -/
def Converter.Allows (converter : Converter) (formsOf : Text → Forms) (text : Text) : Prop :=
  ∀ forms, Forms.of converter text = .ok forms → formsOf text = forms

section

variable {converter : Converter} {formsOf : Text → Forms}

theorem meetsLiteral_comesTo (title : Forms) (literals : List Text) (ledger : Ledger)
    (hledger : ledger.Faithful converter)
    (hforms : ∀ literal ∈ literals, converter.Allows formsOf literal) :
    ComesTo (literals.any fun literal => title.meets (formsOf literal))
      (fun fault => ∃ literal ∈ literals, converter.FailsOn literal fault)
      (meetsLiteral converter title literals ledger).1 := by
  induction literals generalizing ledger with
  | nil => rfl
  | cons literal rest ih =>
    have hfst := hledger.forms_fst literal
    have hsnd := hledger.forms_snd literal
    rcases hasked : ledger.forms converter literal with ⟨cause | forms, next⟩
    · rw [hasked] at hfst
      simp only [meetsLiteral, hasked]
      exact ⟨literal, List.mem_cons_self, cause, hfst.symm, rfl⟩
    · rw [hasked] at hfst hsnd
      have hliteral : formsOf literal = forms := hforms literal List.mem_cons_self forms hfst.symm
      simp only [meetsLiteral, hasked, List.any_cons, hliteral]
      by_cases hmeets : title.meets forms
      · simp only [hmeets, if_true, Bool.true_or]
        rfl
      · simp only [hmeets, Bool.false_or]
        have hrest := ih next hsnd fun other hother =>
          hforms other (List.mem_cons_of_mem literal hother)
        exact hrest.weaken fun fault hfails => List.exists_mem_cons_of_exists hfails

theorem Term.metBy_comesTo (title : Forms) (term : Term) (ledger : Ledger)
    (hledger : ledger.Faithful converter)
    (hforms : ∀ literal ∈ term.literals, converter.Allows formsOf literal) :
    ComesTo (term.meets formsOf title) (fun fault => term.FailsWith converter fault)
      (term.metBy converter title ledger).1 := by
  cases term with
  | plain alternatives =>
    exact (meetsLiteral_comesTo title alternatives ledger hledger hforms).weaken
      fun fault hfails => .inl hfails
  | pattern body tree =>
    cases tree with
    | none =>
      exact (meetsLiteral_comesTo title [body] ledger hledger hforms).weaken
        fun fault hfails => .inl hfails
    | some tree => rfl
  | unknown kind => exact .inr ⟨kind, rfl, rfl⟩

theorem meetsTerm_comesTo (title : Forms) (terms : List Term) (ledger : Ledger)
    (hledger : ledger.Faithful converter)
    (hforms : ∀ term ∈ terms, ∀ literal ∈ term.literals, converter.Allows formsOf literal) :
    ComesTo (terms.any (Term.meets formsOf title))
      (fun fault => ∃ term ∈ terms, term.FailsWith converter fault)
      (meetsTerm converter title terms ledger).1 := by
  induction terms generalizing ledger with
  | nil => rfl
  | cons term rest ih =>
    have hfst := term.metBy_comesTo title ledger hledger (hforms term List.mem_cons_self)
    have hsnd := (term.halts_metBy converter title).replays.faithful hledger
    rcases htried : term.metBy converter title ledger with ⟨fault | met, next⟩
    · rw [htried] at hfst
      simp only [meetsTerm, htried]
      exact ⟨term, List.mem_cons_self, hfst⟩
    · rw [htried] at hfst hsnd
      obtain rfl : met = term.meets formsOf title := hfst
      simp only [meetsTerm, htried, List.any_cons]
      cases term.meets formsOf title with
      | true => rfl
      | false =>
        have hrest := ih next hsnd fun other hother =>
          hforms other (List.mem_cons_of_mem term hother)
        exact hrest.weaken fun fault hfails => List.exists_mem_cons_of_exists hfails

theorem meetsGroups_comesTo (title : Forms) (groups : List Group) (ledger : Ledger)
    (hledger : ledger.Faithful converter)
    (hforms : ∀ group ∈ groups, ∀ term ∈ group.terms, ∀ literal ∈ term.literals,
      converter.Allows formsOf literal) :
    ComesTo (groups.all (Group.meets formsOf title))
      (fun fault => ∃ group ∈ groups, group.FailsWith converter fault)
      (meetsGroups converter title groups ledger).1 := by
  induction groups generalizing ledger with
  | nil => rfl
  | cons group rest ih =>
    have hfst := meetsTerm_comesTo title group.terms ledger hledger
      (hforms group List.mem_cons_self)
    have hsnd := (halts_meetsTerm converter title group.terms).replays.faithful hledger
    rcases htried : meetsTerm converter title group.terms ledger with ⟨fault | met, next⟩
    · rw [htried] at hfst
      simp only [meetsGroups, htried]
      exact ⟨group, List.mem_cons_self, hfst⟩
    · rw [htried] at hfst hsnd
      obtain rfl : met = group.meets formsOf title := hfst
      simp only [meetsGroups, htried, List.all_cons]
      cases group.meets formsOf title with
      | true =>
        have hrest := ih next hsnd fun other hother =>
          hforms other (List.mem_cons_of_mem group hother)
        exact hrest.weaken fun fault hfails => List.exists_mem_cons_of_exists hfails
      | false => rfl

theorem Rule.mem_allLiterals {rule : Rule} {literal : Text} :
    literal ∈ rule.allLiterals ↔
      ∃ group ∈ rule.groups, ∃ term ∈ group.terms, literal ∈ term.literals := by
  simp only [Rule.allLiterals, List.mem_flatMap]

/-- A trial comes to what the forms say, or to the fault of the title or of one of the groups. -/
theorem Rule.accepts_comesTo (rule : Rule) (title : Text) (ledger : Ledger)
    (hledger : ledger.Faithful converter) (htitle : converter.Allows formsOf title)
    (hforms : ∀ literal ∈ rule.allLiterals, converter.Allows formsOf literal) :
    ComesTo (rule.meets formsOf (formsOf title))
      (fun fault => converter.FailsOn title fault ∨
        ∃ group ∈ rule.groups, group.FailsWith converter fault)
      (rule.accepts converter title ledger).1 := by
  unfold Rule.accepts
  cases hall : rule.matchesAll with
  | true =>
    have hgroups : rule.groups = [] := List.isEmpty_iff.mp hall
    simp [ComesTo, Rule.meets, hgroups]
  | false =>
    have hfst := hledger.forms_fst title
    have hsnd := hledger.forms_snd title
    rcases hasked : ledger.forms converter title with ⟨cause | forms, next⟩
    · rw [hasked] at hfst
      exact .inl ⟨cause, hfst.symm, rfl⟩
    · rw [hasked] at hfst hsnd
      rw [htitle forms hfst.symm]
      have hgroups := meetsGroups_comesTo forms rule.groups next hsnd
        fun group hgroup term hterm literal hliteral =>
          hforms literal (mem_allLiterals.mpr ⟨group, hgroup, term, hterm, hliteral⟩)
      exact hgroups.weaken fun fault hfails => .inr hfails

/-- A rule whose conversions succeed comes to what the forms say. -/
theorem Rule.accepts_fst_of_forms (rule : Rule) (title : Text) (ledger : Ledger)
    (hledger : ledger.Faithful converter) (hknown : rule.Known)
    (htitle : Forms.of converter title = .ok (formsOf title))
    (hforms : ∀ literal ∈ rule.allLiterals, Forms.of converter literal = .ok (formsOf literal)) :
    (rule.accepts converter title ledger).1 = .ok (rule.meets formsOf (formsOf title)) := by
  have hallows : ∀ text, Forms.of converter text = .ok (formsOf text) →
      converter.Allows formsOf text := fun text htext forms hof =>
    Except.ok.inj (htext.symm.trans hof)
  have hnever : ∀ text, Forms.of converter text = .ok (formsOf text) →
      ∀ fault, ¬ converter.FailsOn text fault := by
    rintro text htext fault ⟨cause, hcause, -⟩
    rw [htext] at hcause
    cases hcause
  have hcomes := rule.accepts_comesTo title ledger hledger (hallows title htitle)
    fun literal hliteral => hallows literal (hforms literal hliteral)
  cases houtcome : (rule.accepts converter title ledger).1 with
  | ok met =>
    rw [houtcome] at hcomes
    exact congrArg Except.ok hcomes
  | error fault =>
    rw [houtcome] at hcomes
    rcases hcomes with htitleFails | ⟨group, hgroup, term, hterm, hfails⟩
    · exact absurd htitleFails (hnever title htitle fault)
    · rcases hfails with ⟨literal, hliteral, hfails⟩ | ⟨kind, hkind, -⟩
      · have hmember := mem_allLiterals.mpr ⟨group, hgroup, term, hterm, hliteral⟩
        exact absurd hfails (hnever literal (hforms literal hmember) fault)
      · exact absurd hkind (hknown group hgroup term hterm kind)

end

theorem Forms.meets_iff (title literal : Forms) :
    title.meets literal = true ↔
      ∃ needle ∈ literal.toList, ∃ form ∈ title.toList, needle <:+: form := by
  simp only [Forms.meets, Forms.contains, List.any_eq_true, Text.occursIn_iff_infix]

theorem Term.meets_iff (formsOf : Text → Forms) (title : Forms) (term : Term) :
    term.meets formsOf title = true ↔
      (∃ body tree, term = .pattern body (some tree) ∧
        ∃ form ∈ title.toList, tree.foundIn form = true) ∨
      ∃ literal ∈ term.literals, ∃ needle ∈ (formsOf literal).toList,
        ∃ form ∈ title.toList, needle <:+: form := by
  cases term with
  | plain alternatives => simp [Term.meets, Term.literals, Forms.meets_iff]
  | pattern body tree =>
    cases tree with
    | none => simp [Term.meets, Term.literals, Forms.meets_iff]
    | some tree => simp [Term.meets, Term.literals, Pattern.Tree.foundInForms]
  | unknown kind => simp [Term.meets, Term.literals]

theorem Rule.meets_iff (formsOf : Text → Forms) (title : Forms) (rule : Rule) :
    rule.meets formsOf title = true ↔
      ∀ group ∈ rule.groups, ∃ term ∈ group.terms, term.meets formsOf title = true := by
  simp only [Rule.meets, Group.meets, List.all_eq_true, List.any_eq_true]

def Converter.Gives (converter : Converter) (variantA variantB : Text → Text) : Prop :=
  ∀ text, converter.toA text = .ok (variantA text) ∧ converter.toB text = .ok (variantB text)

def Forms.ofVariants (variantA variantB : Text → Text) (text : Text) : Forms :=
  ⟨text.lower, (variantA text).lower, (variantB text).lower⟩

theorem Converter.Gives.forms_of {converter : Converter} {variantA variantB : Text → Text}
    (h : converter.Gives variantA variantB) (text : Text) :
    Forms.of converter text = .ok (Forms.ofVariants variantA variantB text) := by
  simp only [Forms.of, (h text).1, (h text).2, Forms.ofVariants]

/-- A text and its two variants in lower case. -/
def loweredForms (variantA variantB : Text → Text) (text : Text) : List Text :=
  [text, variantA text, variantB text].map Text.lower

/-- With a converter that never fails, a title meets a rule exactly if every group has a term that
it meets: a pattern that is found in one of the title's lowered forms, or a literal one of whose
lowered forms is part of one of them. It does not matter which forms are known already. A rule
without groups is met by every title, and no title meets a group all of whose terms are empty
lists. -/
theorem Rule.accepts_iff_each_group_met {converter : Converter} {variantA variantB : Text → Text}
    (hconverter : converter.Gives variantA variantB) (rule : Rule) (hknown : rule.Known)
    (title : Text) (ledger : Ledger) (hledger : ledger.Faithful converter) :
    ∃ met, (rule.accepts converter title ledger).1 = .ok met ∧
      (met = true ↔ ∀ group ∈ rule.groups, ∃ term ∈ group.terms,
        (∃ body tree, term = .pattern body (some tree) ∧
          ∃ form ∈ loweredForms variantA variantB title, tree.foundIn form = true) ∨
        ∃ literal ∈ term.literals, ∃ needle ∈ loweredForms variantA variantB literal,
          ∃ form ∈ loweredForms variantA variantB title, needle <:+: form) ∧
      (rule.groups = [] → met = true) ∧
      ∀ group ∈ rule.groups, (∀ term ∈ group.terms, term = .plain []) → met = false := by
  have hforms := hconverter.forms_of
  have hmeets := rule.meets_iff (Forms.ofVariants variantA variantB)
    (Forms.ofVariants variantA variantB title)
  refine ⟨_, rule.accepts_fst_of_forms title ledger hledger hknown (hforms title)
    fun literal _ => hforms literal, ?_, fun hgroups => ?_, fun group hgroup hempty => ?_⟩
  · simp only [hmeets, Term.meets_iff]
    rfl
  · simp [hmeets, hgroups]
  · rw [Bool.eq_false_iff]
    intro htrue
    obtain ⟨term, hterm, hmet⟩ := hmeets.mp htrue group hgroup
    rw [hempty term hterm] at hmet
    simp [Term.meets, Term.literals] at hmet

/-- A pattern is not found, but the literal beside it is, in a form that is known beforehand. -/
theorem Rule.accepts_known_title :
    Converter.identity.Gives id id ∧
      Rule.Known ⟨[⟨[], [.pattern ['z'] (some (.one (.literal false .exact 122))),
        .pattern ['B', '('] none]⟩]⟩ ∧
      Ledger.Faithful .identity
        ⟨some [(['A', 'b', '('], ⟨['a', 'b', '('], ['a', 'b', '('], ['a', 'b', '(']⟩)], []⟩ ∧
      (Rule.accepts .identity
        ⟨[⟨[], [.pattern ['z'] (some (.one (.literal false .exact 122))),
          .pattern ['B', '('] none]⟩]⟩ ['A', 'b', '(']
        ⟨some [(['A', 'b', '('], ⟨['a', 'b', '('], ['a', 'b', '('], ['a', 'b', '(']⟩)], []⟩).1 =
        .ok true := by
  have hgives : Converter.identity.Gives id id := fun text => ⟨rfl, rfl⟩
  have hknown : Rule.Known ⟨[⟨[], [.pattern ['z'] (some (.one (.literal false .exact 122))),
      .pattern ['B', '('] none]⟩]⟩ := by
    simp [Rule.Known]
  have hledger : Ledger.Faithful .identity
      ⟨some [(['A', 'b', '('], ⟨['a', 'b', '('], ['a', 'b', '('], ['a', 'b', '(']⟩)], []⟩ := by
    have hforms : Forms.of .identity ['A', 'b', '('] =
        .ok ⟨['a', 'b', '('], ['a', 'b', '('], ['a', 'b', '(']⟩ := by decide
    exact (Ledger.faithful_fresh .identity true).remember hforms
  obtain ⟨met, houtcome, hiff, -⟩ :=
    Rule.accepts_iff_each_group_met hgives _ hknown ['A', 'b', '('] _ hledger
  have hmet : met = true := by
    refine hiff.mpr fun group hgroup => ?_
    obtain rfl := List.mem_singleton.mp hgroup
    exact ⟨.pattern ['B', '('] none, by simp, .inr ⟨['B', '('], by simp [Term.literals],
      ['b', '('], by decide, ['a', 'b', '('], by decide, ['a'], [], rfl⟩⟩
  exact ⟨hgives, hknown, hledger, by rw [houtcome, hmet]⟩

end TitleSieve
