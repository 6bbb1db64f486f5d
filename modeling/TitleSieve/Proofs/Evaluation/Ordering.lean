import TitleSieve.Proofs.Evaluation.Meaning

/-!
Order and repetition in a rule. A trial that comes to a value comes to what the forms of the texts
say, also if the converter fails on texts that the trial does not reach; and what the forms say is a
matter of which groups, terms and literals there are. So two rules with the same ones come to the
same value wherever both come to one, although they ask for different texts in different orders and
fail on different titles.
-/

namespace TitleSieve

/-- The forms of a text, which are empty where the converter fails. -/
def Converter.formsOf (converter : Converter) (text : Text) : Forms :=
  match Forms.of converter text with
  | .ok forms => forms
  | .error _ => ⟨[], [], []⟩

theorem Converter.allows_formsOf (converter : Converter) (text : Text) :
    converter.Allows converter.formsOf text := by
  intro forms hforms
  rw [Converter.formsOf, hforms]

theorem Converter.Converts.forms_of {converter : Converter} {text : Text}
    (h : converter.Converts text) : Forms.of converter text = .ok (converter.formsOf text) := by
  obtain ⟨forms, hforms⟩ := h
  rw [converter.allows_formsOf text forms hforms, hforms]

/-- A trial that comes to a value comes to what the forms say. -/
theorem Rule.eq_of_accepts {converter : Converter} {ledger : Ledger}
    (hledger : ledger.Faithful converter) {rule : Rule} {title : Text} {met : Bool}
    (h : (rule.accepts converter title ledger).1 = .ok met) :
    met = rule.meets converter.formsOf (converter.formsOf title) := by
  have hcomes := rule.accepts_comesTo title ledger hledger (converter.allows_formsOf title)
    fun literal _ => converter.allows_formsOf literal
  rw [h] at hcomes
  exact hcomes

/-- The lists have the same members up to this relation, in any order and any number of times. -/
def SameMembers {α : Type} (same : α → α → Prop) (first second : List α) : Prop :=
  (∀ a ∈ first, ∃ b ∈ second, same a b) ∧ ∀ b ∈ second, ∃ a ∈ first, same a b

section

variable {α : Type} {same : α → α → Prop} {first second : List α}

theorem SameMembers.any_eq (h : SameMembers same first second) {p : α → Bool}
    (hp : ∀ a b, same a b → p a = p b) : first.any p = second.any p := by
  rw [Bool.eq_iff_iff, List.any_eq_true, List.any_eq_true]
  constructor
  · rintro ⟨a, ha, hpa⟩
    obtain ⟨b, hb, hab⟩ := h.1 a ha
    exact ⟨b, hb, hp a b hab ▸ hpa⟩
  · rintro ⟨b, hb, hpb⟩
    obtain ⟨a, ha, hab⟩ := h.2 b hb
    exact ⟨a, ha, (hp a b hab).symm ▸ hpb⟩

theorem SameMembers.all_eq (h : SameMembers same first second) {p : α → Bool}
    (hp : ∀ a b, same a b → p a = p b) : first.all p = second.all p := by
  have hany : (first.any fun a => !p a) = second.any fun a => !p a :=
    h.any_eq fun a b hab => by rw [hp a b hab]
  rw [List.all_eq_not_any_not, List.all_eq_not_any_not, hany]

instance SameMembers.decidable [DecidableRel same] : Decidable (SameMembers same first second) :=
  inferInstanceAs (Decidable (_ ∧ _))

end

/-- Lists of the same literals, or one and the same term. A pattern that could be read is not the
same as one that could not, even if their bodies are. -/
def Term.Same : Term → Term → Prop
  | .plain alternatives, .plain alternatives' => SameMembers (· = ·) alternatives alternatives'
  | first, second => first = second

instance Term.decidableSame : DecidableRel Term.Same
  | .plain alternatives, .plain alternatives' =>
    inferInstanceAs (Decidable (SameMembers (· = ·) alternatives alternatives'))
  | .plain alternatives, .pattern body tree =>
    inferInstanceAs (Decidable (Term.plain alternatives = .pattern body tree))
  | .plain alternatives, .unknown kind =>
    inferInstanceAs (Decidable (Term.plain alternatives = .unknown kind))
  | .pattern body tree, other => inferInstanceAs (Decidable (Term.pattern body tree = other))
  | .unknown kind, other => inferInstanceAs (Decidable (Term.unknown kind = other))

/-- The same terms; sources are not compared. -/
def Group.Same (first second : Group) : Prop := SameMembers Term.Same first.terms second.terms

instance Group.decidableSame : DecidableRel Group.Same := fun first second =>
  inferInstanceAs (Decidable (SameMembers Term.Same first.terms second.terms))

def Rule.Same (first second : Rule) : Prop := SameMembers Group.Same first.groups second.groups

instance Rule.decidableSame : DecidableRel Rule.Same := fun first second =>
  inferInstanceAs (Decidable (SameMembers Group.Same first.groups second.groups))

/-- Terms of the same kind: lists of the same literals, or equal terms. -/
theorem Term.Same.cases {first second : Term} (h : first.Same second) :
    (∃ alternatives alternatives', first = .plain alternatives ∧ second = .plain alternatives' ∧
      ∀ literal, literal ∈ alternatives ↔ literal ∈ alternatives') ∨ first = second := by
  unfold Term.Same at h
  split at h
  · rename_i alternatives alternatives'
    refine .inl ⟨alternatives, alternatives', rfl, rfl, fun literal => ⟨fun hl => ?_, fun hl => ?_⟩⟩
    · obtain ⟨other, hother, rfl⟩ := h.1 literal hl
      exact hother
    · obtain ⟨other, hother, rfl⟩ := h.2 literal hl
      exact hother
  · exact .inr h

theorem Term.Same.literals_iff {first second : Term} (h : first.Same second) (literal : Text) :
    literal ∈ first.literals ↔ literal ∈ second.literals := by
  rcases h.cases with ⟨alternatives, alternatives', rfl, rfl, hmem⟩ | rfl
  · exact hmem literal
  · exact Iff.rfl

theorem Term.Same.meets_eq {first second : Term} (h : first.Same second) (formsOf : Text → Forms)
    (title : Forms) : first.meets formsOf title = second.meets formsOf title := by
  rcases h.cases with ⟨alternatives, alternatives', rfl, rfl, -⟩ | rfl
  · have hmembers : SameMembers (· = ·) alternatives alternatives' := h
    exact hmembers.any_eq fun a b hab => by rw [hab]
  · rfl

theorem Group.Same.meets_eq {first second : Group} (h : first.Same second) (formsOf : Text → Forms)
    (title : Forms) : first.meets formsOf title = second.meets formsOf title :=
  SameMembers.any_eq h fun _ _ hterm => hterm.meets_eq formsOf title

/-- What the forms say of a rule does not depend on order and repetition. -/
theorem Rule.Same.meets_eq {first second : Rule} (h : first.Same second) (formsOf : Text → Forms)
    (title : Forms) : first.meets formsOf title = second.meets formsOf title :=
  SameMembers.all_eq h fun _ _ hgroup => hgroup.meets_eq formsOf title

theorem Rule.Same.mem_allLiterals {first second : Rule} (h : first.Same second) {literal : Text}
    (hliteral : literal ∈ second.allLiterals) : literal ∈ first.allLiterals := by
  obtain ⟨group, hgroup, term, hterm, hmem⟩ := Rule.mem_allLiterals.mp hliteral
  obtain ⟨group', hgroup', hsame⟩ := h.2 group hgroup
  obtain ⟨term', hterm', hsame'⟩ := hsame.2 term hterm
  exact Rule.mem_allLiterals.mpr
    ⟨group', hgroup', term', hterm', (hsame'.literals_iff literal).mpr hmem⟩

theorem Rule.Same.known {first second : Rule} (h : first.Same second) (hknown : first.Known) :
    second.Known := by
  intro group hgroup term hterm kind hkind
  obtain ⟨group', hgroup', hsame⟩ := h.2 group hgroup
  obtain ⟨term', hterm', hsame'⟩ := hsame.2 term hterm
  rcases hsame'.cases with ⟨-, alternatives, -, hplain, -⟩ | heq
  · rw [hkind] at hplain
    cases hplain
  · exact hknown group' hgroup' term' hterm' kind (heq.trans hkind)

/-- Two rules with the same groups, in any order and repeated at will, come to the same value on
every title on which both come to one, whatever is known to either trial beforehand; and both do
come to one if the converter fails neither on the title nor on a literal. -/
theorem Rule.accepts_eq_of_same {converter : Converter} {first second : Rule}
    (hsame : first.Same second) {ledger ledger' : Ledger} (hledger : ledger.Faithful converter)
    (hledger' : ledger'.Faithful converter) (title : Text) :
    (∀ met met', (first.accepts converter title ledger).1 = .ok met →
      (second.accepts converter title ledger').1 = .ok met' → met = met') ∧
    (first.Known → converter.Converts title →
      (∀ literal ∈ first.allLiterals, converter.Converts literal) →
      ∃ met, (first.accepts converter title ledger).1 = .ok met ∧
        (second.accepts converter title ledger').1 = .ok met) := by
  have hmeets := hsame.meets_eq converter.formsOf (converter.formsOf title)
  constructor
  · intro met met' hfirst hsecond
    calc
      met = first.meets converter.formsOf (converter.formsOf title) :=
        Rule.eq_of_accepts hledger hfirst
      _ = second.meets converter.formsOf (converter.formsOf title) := hmeets
      _ = met' := (Rule.eq_of_accepts hledger' hsecond).symm
  · intro hknown htitle hliterals
    have hfirst := first.accepts_fst_of_forms title ledger hledger hknown htitle.forms_of
      fun literal hliteral => (hliterals literal hliteral).forms_of
    have hsecond := second.accepts_fst_of_forms title ledger' hledger' (hsame.known hknown)
      htitle.forms_of fun literal hliteral =>
        (hliterals literal (hsame.mem_allLiterals hliteral)).forms_of
    exact ⟨_, hfirst, by rw [hmeets, hsecond]⟩

def Rule.choice : Rule := ⟨[⟨['a', '|', 'x'], [.plain [['a'], ['x']]]⟩]⟩

/-- The same group twice, from other sources, its literals the other way round and repeated. -/
def Rule.repeatedChoice : Rule :=
  ⟨[⟨[], [.plain [['a'], ['x'], ['a']], .plain [['x'], ['a']]]⟩,
    ⟨['a'], [.plain [['a'], ['x']]]⟩]⟩

/-- A converter that fails on the second literal, which neither trial reaches. -/
def Converter.refusing : Converter := .ofTable ⟨[], [], some ['x'], none⟩

/-- The two rules on one title, with the converter that fails on a literal and with one that never
fails. -/
theorem Rule.accepts_eq_of_same_choice :
    Rule.choice.Same Rule.repeatedChoice ∧
      (∃ met met', (Rule.choice.accepts .refusing ['A'] (.fresh true)).1 = .ok met ∧
        (Rule.repeatedChoice.accepts .refusing ['A'] (.fresh false)).1 = .ok met' ∧ met = met') ∧
      ∃ met, (Rule.choice.accepts .identity ['A'] (.fresh true)).1 = .ok met ∧
        (Rule.repeatedChoice.accepts .identity ['A'] (.fresh false)).1 = .ok met := by
  have hsame : Rule.choice.Same Rule.repeatedChoice := by decide
  have hfirst : (Rule.choice.accepts .refusing ['A'] (.fresh true)).1 = .ok true := by decide
  have hsecond : (Rule.repeatedChoice.accepts .refusing ['A'] (.fresh false)).1 = .ok true := by
    decide
  have hrefusing := Rule.accepts_eq_of_same hsame (Ledger.faithful_fresh .refusing true)
    (Ledger.faithful_fresh .refusing false) ['A']
  have hidentity := Rule.accepts_eq_of_same hsame (Ledger.faithful_fresh .identity true)
    (Ledger.faithful_fresh .identity false) ['A']
  have hknown : Rule.choice.Known := by simp [Rule.Known, Rule.choice]
  refine ⟨hsame, ⟨true, true, hfirst, hsecond, hrefusing.1 true true hfirst hsecond⟩, ?_⟩
  exact hidentity.2 hknown ⟨_, rfl⟩ fun literal _ => ⟨_, rfl⟩

end TitleSieve
