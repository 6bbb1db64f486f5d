import TitleSieve.Proofs.Rule.Image
import TitleSieve.Proofs.Evaluation.Meaning
import TitleSieve.Proofs.Text.Recasing

/-!
Decisions that do not depend on the case of letters. Without variants a text is compared in its
lowercase form only, which is the same for all texts with the same letters of ASCII. A title can
therefore be written in either case under any rule, and so can a rule that consists of literals:
separators, bars and slashes are no letters, and the literals stay the same but for case.
-/

namespace TitleSieve.Rule

open Text

/-- A trial looks at the forms of its title only. -/
theorem accepts_fst_congr {converter : Converter} {title other : Text}
    (hforms : Forms.of converter title = Forms.of converter other) (rule : Rule) {ledger : Ledger}
    (hledger : ledger.Faithful converter) :
    (rule.accepts converter title ledger).1 = (rule.accepts converter other ledger).1 := by
  cases hall : rule.matchesAll with
  | true =>
    rw [rule.accepts_of_matchesAll converter title hall,
      rule.accepts_of_matchesAll converter other hall]
  | false =>
    have hfst := hledger.forms_fst title
    have hfst' := hledger.forms_fst other
    have hsnd := hledger.forms_snd title
    have hsnd' := hledger.forms_snd other
    rw [rule.accepts_of_groups converter title hall, rule.accepts_of_groups converter other hall]
    unfold Evaluation.andThen
    generalize ledger.forms converter title = asked at hfst hsnd ⊢
    generalize ledger.forms converter other = asked' at hfst' hsnd' ⊢
    obtain ⟨outcome, after⟩ := asked
    obtain ⟨outcome', after'⟩ := asked'
    obtain rfl : outcome = outcome' := hfst.trans (hforms.trans hfst'.symm)
    cases outcome with
    | error cause => rfl
    | ok forms =>
      have hreplays := (halts_meetsGroups converter forms rule.groups).replays
      exact (hreplays.outcome hsnd).trans (hreplays.outcome hsnd').symm

def OnlyLiterals (rule : Rule) : Prop :=
  ∀ group ∈ rule.groups, ∀ term ∈ group.terms, ∃ alternatives, term = .plain alternatives

/-- The rule that is read from these segments if none of them has the form of a pattern. -/
def ofSegments (segments : List Text) : Rule :=
  ⟨segments.map fun segment => ⟨segment, [.plain (literals segment)]⟩⟩

theorem onlyLiterals_ofSegments (segments : List Text) : (ofSegments segments).OnlyLiterals := by
  intro group hgroup term hterm
  obtain ⟨segment, -, rfl⟩ := List.mem_map.mp hgroup
  exact ⟨literals segment, List.mem_singleton.mp hterm⟩

theorem OnlyLiterals.known {rule : Rule} (h : rule.OnlyLiterals) : rule.Known := by
  intro group hgroup term hterm kind
  obtain ⟨alternatives, rfl⟩ := h group hgroup term hterm
  exact Term.noConfusion

theorem readAll_of_not_pattern {segments : List Text}
    (h : ∀ segment ∈ segments, patternBody? segment = none) :
    Group.readAll segments = .ok ⟨(ofSegments segments).groups, []⟩ := by
  induction segments with
  | nil => rfl
  | cons segment rest ih =>
    have hgroup : Group.read segment = .ok ⟨⟨segment, [.plain (literals segment)]⟩, []⟩ := by
      rw [Group.read, Term.read, h segment List.mem_cons_self]
    rw [Group.readAll, hgroup, ih fun other hother => h other (List.mem_cons_of_mem _ hother)]
    rfl

/-- A rule that consists of literals is read from the texts whose segments have not the form of
patterns. -/
theorem read_eq_ok_and_onlyLiterals_iff {raw : Text} {rule : Rule} :
    ((∃ warnings, Rule.read raw = .ok ⟨rule, warnings⟩) ∧ rule.OnlyLiterals) ↔
      (∀ segment ∈ segments raw, patternBody? segment = none) ∧
        rule = ofSegments (segments raw) := by
  constructor
  · rintro ⟨hread, hplain⟩
    obtain ⟨hsegments, hfollows⟩ := read_iff.mp hread
    have hgroup : ∀ group ∈ rule.groups, patternBody? group.source = none ∧
        group = ⟨group.source, [.plain (literals group.source)]⟩ := by
      intro group hmem
      obtain ⟨term, hterms, hreadAs⟩ := hfollows group hmem
      obtain ⟨alternatives, rfl⟩ :=
        hplain group hmem term (by rw [hterms]; exact List.mem_cons_self)
      cases hreadAs with
      | plain hsource =>
        obtain ⟨source, terms⟩ := group
        obtain rfl : terms = [.plain (literals source)] := hterms
        exact ⟨patternBody?_eq_none_iff.mpr hsource, rfl⟩
    rw [hsegments]
    constructor
    · intro segment hsegment
      obtain ⟨group, hmem, rfl⟩ := List.mem_map.mp hsegment
      exact (hgroup group hmem).1
    · obtain ⟨groups⟩ := rule
      rw [ofSegments, List.map_map]
      refine congrArg Rule.mk ?_
      conv => lhs; rw [← List.map_id groups]
      exact List.map_congr_left fun group hmem => (hgroup group hmem).2
  · rintro ⟨hnone, rfl⟩
    refine ⟨⟨[], ?_⟩, onlyLiterals_ofSegments _⟩
    rw [Rule.read, readAll_of_not_pattern hnone]

theorem segments_map_toLower (raw : Text) :
    segments (raw.map Char.toLower) = (segments raw).map (List.map Char.toLower) := by
  refine pieces_map_toLower (fun c => ?_) raw
  rw [Bool.eq_iff_iff]
  simp only [isSeparator, Bool.or_eq_true, beq_iff_eq, toLower_eq_iff (d := ';') (by decide),
    toLower_eq_iff (d := wideSemicolon) (by decide)]

theorem literals_map_toLower (segment : Text) :
    literals (segment.map Char.toLower) = (literals segment).map (List.map Char.toLower) := by
  refine pieces_map_toLower (fun c => ?_) segment
  rw [Bool.eq_iff_iff]
  simp only [beq_iff_eq, toLower_eq_iff (d := '|') (by decide)]

theorem patternBody?_map_toLower (segment : Text) :
    patternBody? (segment.map Char.toLower) =
      (patternBody? segment).map (List.map Char.toLower) := by
  have hslash : ∀ end? : Option Char, (end?.map Char.toLower == some '/') = (end? == some '/') := by
    intro end?
    rw [Bool.eq_iff_iff, beq_iff_eq, beq_iff_eq, Option.map_eq_some_iff]
    simp [toLower_eq_iff (d := '/') (by decide)]
  unfold patternBody?
  simp only [List.length_map, List.head?_map, List.getLast?_map, hslash]
  split
  · simp [List.map_tail, List.map_dropLast]
  · rfl

/-- What does not see the case of letters holds of all segments of both texts or of neither. -/
theorem all_segments_of_sameLetters {raw other : Text} (h : SameLetters raw other)
    {p : Text → Bool} (hp : ∀ segment, p (segment.map Char.toLower) = p segment) :
    (segments raw).all p = (segments other).all p := by
  have hall : ∀ texts : List Text, (texts.map (List.map Char.toLower)).all p = texts.all p := by
    intro texts
    rw [List.all_map]
    exact congrArg (texts.all ·) (funext hp)
  calc
    (segments raw).all p = (segments (raw.map Char.toLower)).all p := by
      rw [segments_map_toLower, hall]
    _ = (segments (other.map Char.toLower)).all p := by rw [h]
    _ = (segments other).all p := by rw [segments_map_toLower, hall]

def plainForms (t : Text) : Forms := ⟨t.lower, t.lower, t.lower⟩

theorem plainForms_map_toLower (t : Text) : plainForms (t.map Char.toLower) = plainForms t := by
  rw [plainForms, lower_map_toLower, plainForms]

theorem plainForms_eq {title other : Text} (h : SameLetters title other) :
    plainForms title = plainForms other := by
  rw [plainForms, h.lower_eq, plainForms]

/-- A rule of literals is met by the forms that have a literal of each segment. -/
theorem meets_ofSegments (formsOf : Text → Forms) (forms : Forms) (segments : List Text) :
    (ofSegments segments).meets formsOf forms =
      segments.all fun segment => (literals segment).any fun literal =>
        forms.meets (formsOf literal) := by
  simp [ofSegments, Rule.meets, Group.meets, Term.meets, Term.literals, List.all_map,
    Function.comp_def]

/-- Without variants the letters of ASCII in a title may be written in either case: every rule
decides alike then. So may those of a rule that consists of literals: the rule can still be read,
consists of literals again, and decides alike whatever is known already. -/
theorem accepts_recased {title other : Text} (htitle : SameLetters title other) :
    (∀ (rule : Rule) (ledger : Ledger), ledger.Faithful .identity →
      (rule.accepts .identity other ledger).1 = (rule.accepts .identity title ledger).1) ∧
      ∀ (raw recased : Text) (rule : Warned Rule), SameLetters raw recased →
        Rule.read raw = .ok rule → rule.value.OnlyLiterals →
        ∃ rule' met, Rule.read recased = .ok rule' ∧ rule'.value.OnlyLiterals ∧
          ∀ ledger : Ledger, ledger.Faithful .identity →
            (rule.value.accepts .identity title ledger).1 = .ok met ∧
            (rule'.value.accepts .identity other ledger).1 = .ok met := by
  have hforms : ∀ text, Forms.of .identity text = .ok (plainForms text) := fun _ => rfl
  constructor
  · intro rule ledger hledger
    refine accepts_fst_congr ?_ rule hledger
    rw [hforms, hforms, plainForms_eq htitle]
  · intro raw recased rule hraw hread hplain
    obtain ⟨hnone, hvalue⟩ := read_eq_ok_and_onlyLiterals_iff.mp ⟨⟨rule.warnings, hread⟩, hplain⟩
    have hnone' : ∀ segment ∈ segments recased, patternBody? segment = none := by
      have hall := all_segments_of_sameLetters hraw
        (p := fun segment => (patternBody? segment).isNone)
        fun segment => by rw [patternBody?_map_toLower, Option.isNone_map]
      simpa [List.all_eq_true.mpr fun segment hmem => Option.isNone_iff_eq_none.mpr
        (hnone segment hmem)] using hall.symm
    obtain ⟨⟨warnings, hread'⟩, hplain'⟩ := read_eq_ok_and_onlyLiterals_iff.mpr ⟨hnone', rfl⟩
    have hmeets : (ofSegments (segments recased)).meets plainForms (plainForms other) =
        rule.value.meets plainForms (plainForms title) := by
      rw [hvalue, meets_ofSegments, meets_ofSegments, plainForms_eq htitle]
      refine (all_segments_of_sameLetters hraw fun segment => ?_).symm
      rw [literals_map_toLower, List.any_map]
      simp only [Function.comp_def, plainForms_map_toLower]
    refine ⟨_, rule.value.meets plainForms (plainForms title), hread', hplain',
      fun ledger hledger =>
      ⟨?_, ?_⟩⟩
    · exact rule.value.accepts_fst_of_forms title ledger hledger hplain.known (hforms title)
        fun literal _ => hforms literal
    · rw [← hmeets]
      exact (ofSegments (segments recased)).accepts_fst_of_forms other ledger hledger hplain'.known
        (hforms other) fun literal _ => hforms literal

/-- Around a capital sigma, which stays inside its word, letters are written in either case. -/
theorem accepts_recased_around_sigma :
    SameLetters "İxΣb".toList "İXΣB".toList ∧ SameLetters "xΣB|q；İ".toList "XΣb|Q；İ".toList ∧
      ∃ rule rule', Rule.read "xΣB|q；İ".toList = .ok rule ∧
        Rule.read "XΣb|Q；İ".toList = .ok rule' ∧
        rule.value.alone .identity "İxΣb".toList = .ok true ∧
        rule'.value.alone .identity "İXΣB".toList = .ok true ∧
        rule.value.alone .identity "İXΣB".toList = .ok true := by
  have htitle : SameLetters "İxΣb".toList "İXΣB".toList := by decide
  have hraw : SameLetters "xΣB|q；İ".toList "XΣb|Q；İ".toList := by decide
  obtain ⟨⟨warnings, hread⟩, hplain⟩ := read_eq_ok_and_onlyLiterals_iff.mpr
    (⟨by decide, rfl⟩ : (∀ segment ∈ segments "xΣB|q；İ".toList, patternBody? segment = none) ∧
      ofSegments (segments "xΣB|q；İ".toList) = _)
  obtain ⟨hany, hliterals⟩ := accepts_recased htitle
  obtain ⟨rule', met, hread', -, hdecides⟩ := hliterals _ _ _ hraw hread hplain
  have hfresh := Ledger.faithful_fresh .identity false
  obtain ⟨halone, halone'⟩ := hdecides _ hfresh
  have hmet : met = true := by
    have hdecided : (ofSegments (segments "xΣB|q；İ".toList)).alone .identity "İxΣb".toList =
      .ok true := by decide +kernel
    exact Except.ok.inj (halone.symm.trans hdecided)
  subst hmet
  exact ⟨htitle, hraw, _, rule', hread, hread', halone, halone', (hany _ _ hfresh).trans halone⟩

end TitleSieve.Rule
