import TitleSieve.Proofs.Command.LineTitles
import TitleSieve.Proofs.Evaluation.Ordering
import TitleSieve.Proofs.Rule.Image

/-!
What can go wrong in a pass over titles with different handles, by a rule that is given as a text.
The rule may be refused, or the converter may fail on a title or on a literal of the rule. A text is
read as a rule of known terms, a handle that is a text can be compared, and no handle comes twice;
so there is no other fault.
-/

namespace TitleSieve

open Listing

/-- Terms of unknown kinds are never read. -/
theorem Rule.known_of_read {raw : Text} {rule : Warned Rule} (h : Rule.read raw = .ok rule) :
    rule.value.Known := by
  intro group hgroup term hterm kind
  obtain ⟨only, honly, hreadAs⟩ := (Rule.canonical_of_read h group hgroup).follows
  rw [honly, List.mem_singleton] at hterm
  subst hterm
  rintro rfl
  cases hreadAs

/-- A trial by a rule of known terms fails only where the converter fails. -/
theorem Rule.Known.failsOn_of_alone {converter : Converter} {rule : Rule} (hknown : rule.Known)
    {title : Text} {fault : EvaluationFault} (h : rule.alone converter title = .error fault) :
    ∃ text, (text = title ∨ text ∈ rule.allLiterals) ∧ converter.FailsOn text fault := by
  have hcomes := rule.accepts_comesTo title (.fresh false)
    (Ledger.faithful_fresh converter false) (converter.allows_formsOf title)
    fun literal _ => converter.allows_formsOf literal
  rw [show (rule.accepts converter title (.fresh false)).1 = .error fault from h] at hcomes
  rcases hcomes with htitle | ⟨group, hgroup, term, hterm, hfails⟩
  · exact ⟨title, .inl rfl, htitle⟩
  · rcases hfails with ⟨literal, hliteral, hfails⟩ | ⟨kind, hkind, -⟩
    · exact ⟨literal, .inr (mem_allLiterals.mpr ⟨group, hgroup, term, hterm, hliteral⟩), hfails⟩
    · exact absurd hkind (hknown group hgroup term hterm kind)

namespace Pass

/-- What may be wrong with a pass by this text over these titles. -/
inductive Expected (converter : Converter) (raw : Text) (titles : List Text) :
    PassFault → Prop where
  | rule {excess : Pattern.Excess} (hread : Rule.read raw = .error excess) :
      Expected converter raw titles (.rule excess)
  | conversion {rule : Warned Rule} {text : Text} {cause : ConversionFault}
      (hread : Rule.read raw = .ok rule) (htext : text ∈ titles ∨ text ∈ rule.value.allLiterals)
      (hforms : Forms.of converter text = .error cause) :
      Expected converter raw titles (.evaluation (.conversion cause))

variable {converter : Converter} {entries : List (Text × Text)} {fault : PassFault}

theorem exists_alone_of_firstFault {rule : Rule} (hdistinct : Distinct entries)
    (h : FirstFault converter rule (entries.map candidateOf) fault) :
    ∃ entry ∈ entries, ∃ cause, rule.alone converter entry.2 = .error cause ∧
      fault = .evaluation cause := by
  obtain ⟨place, hfault, -⟩ := h
  by_cases hplace : place < entries.length
  · rw [Command.faultAt?_of_distinct hdistinct hplace] at hfault
    cases halone : rule.alone converter entries[place].2 with
    | ok visible =>
      rw [halone] at hfault
      cases hfault
    | error cause =>
      rw [halone] at hfault
      exact ⟨entries[place], List.getElem_mem hplace, cause, halone, (Option.some.inj hfault).symm⟩
  · rw [faultAt?_of_length_le (by simpa using hplace)] at hfault
    cases hfault

/-- Nothing else is wrong with a pass over these titles, whether forms are kept or not. -/
def FailsAsExpected (converter : Converter) (raw : Text) (entries : List (Text × Text)) : Prop :=
  ∀ caching fault, (run converter caching (some raw) (entries.map candidateOf)).1 = .error fault →
    Expected converter raw (entries.map Prod.snd) fault

theorem failsAsExpected_of_distinct (converter : Converter) (raw : Text)
    (hdistinct : Distinct entries) : FailsAsExpected converter raw entries := by
  intro caching fault h
  unfold run at h
  rw [show Rule.readGiven (some raw) = Rule.read raw from rfl] at h
  cases hread : Rule.read raw with
  | error excess =>
    rw [hread] at h
    obtain rfl : PassFault.rule excess = fault := Except.error.inj h
    exact .rule hread
  | ok rule =>
    rw [hread] at h
    obtain ⟨entry, hentry, cause, halone, rfl⟩ :=
      exists_alone_of_firstFault hdistinct ((ofRule_eq_error_iff ..).mp h)
    obtain ⟨text, htext, cause, hforms, rfl⟩ :=
      (Rule.known_of_read hread).failsOn_of_alone halone
    refine .conversion hread (htext.imp ?_ id) hforms
    rintro rfl
    exact List.mem_map_of_mem hentry

end Pass

end TitleSieve
