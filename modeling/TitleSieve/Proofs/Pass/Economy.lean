import Mathlib.Data.Finset.Card
import TitleSieve.Proofs.Pass.Independence

/-!
What a pass submits to the converter. The texts that a pass asks for do not depend on whether forms
are kept, and all of them can be converted but perhaps the last one. A pass that keeps nothing
submits them all; a pass that keeps forms knows a text from its first occurrence on, so it submits
the same texts with every later occurrence taken out.
-/

namespace TitleSieve

def PassFault.cause? : PassFault → Option ConversionFault
  | .evaluation fault => fault.cause?
  | .rule _ | .unhashable _ | .duplicate _ => none

namespace Ledger

variable {converter : Converter} {ledger : Ledger} {asked : List Text} {text : Text}

/-- The ledger keeps forms; it knows the texts that were asked for and has submitted each of them
once, in the order in which they were first asked for. -/
def KeepsAll (asked : List Text) (ledger : Ledger) : Prop :=
  ∃ cache : FormsCache, ledger = ⟨some cache, asked.eraseDups⟩ ∧
    ∀ text, (cache.known? text).isSome = true ↔ text ∈ asked

theorem keepsAll_fresh : KeepsAll [] (fresh true) :=
  ⟨[], rfl, fun text => by simp [FormsCache.known?]⟩

theorem visit_concat (converter : Converter) (ledger : Ledger) (asked : List Text) (text : Text) :
    ledger.visit converter (asked ++ [text]) =
      ((ledger.visit converter asked).forms converter text).2 := by
  rw [visit_append]
  rfl

theorem eraseDups_concat_of_mem (h : text ∈ asked) :
    (asked ++ [text]).eraseDups = asked.eraseDups := by
  rw [List.eraseDups_append]
  simp [List.removeAll, h]

theorem eraseDups_concat_of_not_mem (h : text ∉ asked) :
    (asked ++ [text]).eraseDups = asked.eraseDups ++ [text] := by
  rw [List.eraseDups_append]
  simp [List.removeAll, h, List.eraseDups_cons]

theorem KeepsAll.known?_eq_none_iff (h : ledger.KeepsAll asked) :
    ledger.known? text = none ↔ text ∉ asked := by
  obtain ⟨cache, rfl, hknown⟩ := h
  rw [← hknown, Bool.not_eq_true, Option.isSome_eq_false_iff, Option.isNone_iff_eq_none]
  rfl

/-- A text that is known is not submitted again, and one that is not known is known from now on. -/
theorem KeepsAll.forms_snd (h : ledger.KeepsAll asked) (htext : converter.Converts text) :
    (ledger.forms converter text).2.KeepsAll (asked ++ [text]) := by
  by_cases hmem : text ∈ asked
  · have hknown : ledger.known? text ≠ none := by
      rw [Ne, h.known?_eq_none_iff, not_not]
      exact hmem
    obtain ⟨forms, hforms⟩ := Option.ne_none_iff_exists'.mp hknown
    obtain ⟨cache, rfl, hcache⟩ := h
    have hsame : ((Ledger.mk (some cache) asked.eraseDups).forms converter text).2 =
        ⟨some cache, asked.eraseDups⟩ := by
      simp only [Ledger.forms, hforms]
    rw [hsame]
    refine ⟨cache, by rw [eraseDups_concat_of_mem hmem], fun other => ?_⟩
    rw [hcache, List.mem_append, List.mem_singleton]
    exact ⟨.inl, fun hother => hother.elim id fun heq => heq ▸ hmem⟩
  · have hunknown : ledger.known? text = none := h.known?_eq_none_iff.mpr hmem
    obtain ⟨forms, hforms⟩ := htext
    obtain ⟨cache, rfl, hcache⟩ := h
    have hnext : ((Ledger.mk (some cache) asked.eraseDups).forms converter text).2 =
        ⟨some (cache.put text forms), asked.eraseDups ++ [text]⟩ := by
      simp only [Ledger.forms, hunknown, hforms, submit, remember, Option.map_some]
    rw [hnext]
    refine ⟨cache.put text forms, by rw [eraseDups_concat_of_not_mem hmem], fun other => ?_⟩
    rw [FormsCache.known?_put, List.mem_append, List.mem_singleton]
    by_cases hother : other = text
    · simp [hother]
    · rw [if_neg hother, hcache]
      simp [hother]

theorem keepsAll_visit (h : ∀ text ∈ asked, converter.Converts text) :
    ((fresh true).visit converter asked).KeepsAll asked := by
  induction asked using List.reverseRecOn with
  | nil => exact keepsAll_fresh
  | append_singleton before text ih =>
    rw [List.forall_mem_append] at h
    rw [visit_concat]
    exact (ih h.1).forms_snd (h.2 text List.mem_cons_self)

/-- A text on which the converter fails is submitted and does not become known. -/
theorem KeepsAll.forms_snd_of_error (h : ledger.KeepsAll asked) {cause : ConversionFault}
    (htext : Forms.of converter text = .error cause) (hmem : text ∉ asked) :
    (ledger.forms converter text).2 = ledger.submit text := by
  have hunknown : ledger.known? text = none := h.known?_eq_none_iff.mpr hmem
  simp only [Ledger.forms, hunknown, htext]

/-- No text is asked for again once the converter has failed on it. -/
theorem not_mem_of_error {before : List Text} {cause : ConversionFault}
    (hbefore : ∀ earlier ∈ before, converter.Converts earlier)
    (htext : Forms.of converter text = .error cause) : text ∉ before := by
  intro hmem
  obtain ⟨forms, hforms⟩ := hbefore text hmem
  rw [htext] at hforms
  cases hforms

/-- Every text is submitted where it is first asked for. -/
theorem submitted_visit_fresh {cause : Option ConversionFault} (h : Asked converter cause asked) :
    ((fresh true).visit converter asked).submitted = asked.eraseDups := by
  cases h with
  | all hall =>
    obtain ⟨cache, hledger, -⟩ := keepsAll_visit hall
    rw [hledger]
  | @failing before text cause hbefore hlast =>
    have hmem : text ∉ before := not_mem_of_error hbefore hlast
    have hkeeps := keepsAll_visit hbefore
    rw [visit_concat, hkeeps.forms_snd_of_error hlast hmem, eraseDups_concat_of_not_mem hmem]
    obtain ⟨cache, hledger, -⟩ := hkeeps
    rw [hledger]
    rfl

/-- The text that the converter failed on is the last one that was asked for and is not known. -/
theorem known?_visit_fresh {cause : ConversionFault} (h : Asked converter (some cause) asked) :
    ∃ text, asked.getLast? = some text ∧ asked.eraseDups.getLast? = some text ∧
      Forms.of converter text = .error cause ∧
      ((fresh true).visit converter asked).known? text = none := by
  cases h with
  | @failing before text cause hbefore hlast =>
    have hmem : text ∉ before := not_mem_of_error hbefore hlast
    have hkeeps := keepsAll_visit hbefore
    refine ⟨text, List.getLast?_concat, ?_, hlast, ?_⟩
    · rw [eraseDups_concat_of_not_mem hmem, List.getLast?_concat]
    · rw [visit_concat, hkeeps.forms_snd_of_error hlast hmem]
      exact hkeeps.known?_eq_none_iff.mpr hmem

theorem nodup_eraseDups (asked : List Text) : asked.eraseDups.Nodup := by
  induction asked using List.reverseRecOn with
  | nil => exact List.nodup_nil
  | append_singleton before text ih =>
    by_cases hmem : text ∈ before
    · rwa [eraseDups_concat_of_mem hmem]
    · rw [eraseDups_concat_of_not_mem hmem, ← List.concat_eq_append]
      exact ih.concat (by rwa [List.mem_eraseDups])

theorem length_eraseDups (asked : List Text) : asked.eraseDups.length = asked.toFinset.card := by
  rw [← List.toFinset_card_of_nodup (nodup_eraseDups asked)]
  congr 1
  ext text
  simp only [List.mem_toFinset, List.mem_eraseDups]

end Ledger

/-- Both conversions are asked for every text if all of them can be converted. -/
theorem Converter.calls_of_converts {converter : Converter} {texts : List Text}
    (h : ∀ text ∈ texts, converter.Converts text) :
    converter.calls texts = (texts.length, texts.length) := by
  have hall : ∀ text ∈ texts, (converter.toA text).isOk = true := by
    intro text htext
    obtain ⟨forms, hforms⟩ := h text htext
    unfold Forms.of at hforms
    cases hfirst : converter.toA text with
    | error cause => simp [hfirst] at hforms
    | ok variantA => rfl
  rw [Converter.calls, List.countP_eq_length.mpr hall]

/-- If all texts can be converted, both conversions are asked once for each of them. -/
theorem Converter.calls_eraseDups {converter : Converter} {asked : List Text}
    (h : Asked converter none asked) :
    converter.calls asked.eraseDups = (asked.toFinset.card, asked.toFinset.card) := by
  cases h with
  | all hall =>
    have hconverts : ∀ text ∈ asked.eraseDups, converter.Converts text := by
      intro text htext
      exact hall text (List.mem_eraseDups.mp htext)
    rw [Converter.calls_of_converts hconverts, Ledger.length_eraseDups]

namespace Pass

open Evaluation

variable {H : Type} [HandleKind H] {converter : Converter} {rule : Rule} {raw : Option Text}
  {candidates : List (Candidate H)}

theorem handleFault?_cause? {decided : List (Decision H)} {handle : H} {fault : PassFault}
    (h : handleFault? decided handle = some fault) : fault.cause? = none := by
  unfold handleFault? at h
  split at h
  · obtain rfl := Option.some.inj h
    rfl
  · split at h
    · obtain rfl := Option.some.inj h
      rfl
    · cases h

theorem decide_cons (converter : Converter) (rule : Rule) (decided : List (Decision H))
    (candidate : Candidate H) (rest : List (Candidate H)) :
    decide converter rule decided (candidate :: rest) =
      match handleFault? decided candidate.handle with
      | some fault => fun ledger => (.error fault, ledger)
      | none =>
        andThen (rule.accepts converter candidate.title) .evaluation fun visible =>
          decide converter rule (decided ++ [⟨candidate.handle, visible⟩]) rest := by
  funext ledger
  simp only [decide]
  cases handleFault? decided candidate.handle with
  | some fault => rfl
  | none =>
    simp only [Evaluation.andThen]
    rcases rule.accepts converter candidate.title ledger with ⟨_ | _, _⟩ <;> rfl

theorem halts_decide (converter : Converter) (rule : Rule) (decided : List (Decision H))
    (candidates : List (Candidate H)) :
    Halts PassFault.cause? converter (decide converter rule decided candidates) := by
  induction candidates generalizing decided with
  | nil => exact halts_const converter rfl
  | cons candidate rest ih =>
    rw [decide_cons]
    cases hfault : handleFault? decided candidate.handle with
    | some fault => exact halts_const converter (handleFault?_cause? hfault)
    | none =>
      exact (rule.halts_accepts converter candidate.title).andThen PassFault.evaluation _
        (fun _ => rfl) fun visible => ih (decided ++ [⟨candidate.handle, visible⟩])

theorem ofRule_eq_andThen (converter : Converter) (rule : Rule) (candidates : List (Candidate H)) :
    ofRule converter rule candidates =
      andThen (decide converter rule [] candidates) id fun decisions ledger =>
        (.ok ⟨decisions, summarize rule decisions⟩, ledger) := by
  funext ledger
  simp only [ofRule, Evaluation.andThen]
  rcases decide converter rule [] candidates ledger with ⟨_ | _, _⟩ <;> rfl

theorem halts_ofRule (converter : Converter) (rule : Rule) (candidates : List (Candidate H)) :
    Halts PassFault.cause? converter (ofRule converter rule candidates) := by
  rw [ofRule_eq_andThen]
  exact (halts_decide converter rule [] candidates).andThen id _ (fun _ => rfl)
    fun decisions => halts_const converter rfl

/-- A pass comes to the same outcome and asks for the same texts whether it keeps forms or not. -/
theorem run_asks (converter : Converter) (raw : Option Text) (candidates : List (Candidate H)) :
    ∃ outcome asked, Asked converter (failure? PassFault.cause? outcome) asked ∧
      ∀ caching, run converter caching raw candidates =
        (outcome, (Ledger.fresh caching).visit converter asked) := by
  unfold run
  cases Rule.readGiven raw with
  | error excess => exact ⟨.error (.rule excess), [], .all (by simp), fun caching => rfl⟩
  | ok rule =>
    obtain ⟨outcome, asked, hasked, hall⟩ := halts_ofRule converter rule.value candidates
    exact ⟨outcome, asked, hasked, fun caching => hall _ (Ledger.faithful_fresh converter caching)⟩

theorem run_fst_eq (converter : Converter) (caching : Bool) (raw : Option Text)
    (candidates : List (Candidate H)) :
    (run converter caching raw candidates).1 = (run converter true raw candidates).1 := by
  obtain ⟨outcome, asked, -, hrun⟩ := run_asks converter raw candidates
  rw [hrun, hrun]

/-- There is a title to be tried: the rule can be read and has a group, and there is a candidate. -/
def Tries (raw : Option Text) (candidates : List (Candidate H)) : Prop :=
  (∃ rule, Rule.readGiven raw = .ok rule ∧ rule.value.matchesAll = false) ∧ candidates ≠ []

theorem decide_of_matchesAll (h : rule.matchesAll = true) (converter : Converter)
    (decided : List (Decision H)) (candidates : List (Candidate H)) (ledger : Ledger) :
    decide converter rule decided candidates ledger =
      ((decide .identity rule decided candidates ledger).1, ledger) := by
  induction candidates generalizing decided with
  | nil => rfl
  | cons candidate rest ih =>
    rw [decide_cons, decide_cons]
    cases handleFault? decided candidate.handle with
    | some fault => rfl
    | none =>
      simp only [Evaluation.andThen, rule.accepts_of_matchesAll _ _ h]
      exact ih (decided ++ [⟨candidate.handle, true⟩])

theorem ofRule_of_matchesAll (h : rule.matchesAll = true) (converter : Converter)
    (candidates : List (Candidate H)) (ledger : Ledger) :
    ofRule converter rule candidates ledger =
      ((ofRule .identity rule candidates ledger).1, ledger) := by
  rw [ofRule_fst]
  unfold ofRule
  rw [decide_of_matchesAll h converter]
  cases (decide .identity rule [] candidates ledger).1 <;> rfl

omit [HandleKind H] in
/-- No title is tried if there is none, or if the rule is met by every title. -/
theorem not_tries (h : candidates = [] ∨
    ∃ rule, Rule.readGiven raw = .ok rule ∧ rule.value.matchesAll = true) :
    ¬ Tries raw candidates := by
  rintro ⟨⟨rule, hread, hsome⟩, hcandidates⟩
  rcases h with hnil | ⟨other, hother, hall⟩
  · exact hcandidates hnil
  · obtain rfl : rule = other := Except.ok.inj (hread.symm.trans hother)
    rw [hall] at hsome
    cases hsome

/-- A pass without a title to be tried asks for nothing, so it does not matter whom it would ask. -/
theorem run_of_not_tries (h : ¬ Tries raw candidates) (converter : Converter) (caching : Bool) :
    run converter caching raw candidates =
      ((run .identity caching raw candidates).1, .fresh caching) := by
  unfold run
  cases hread : Rule.readGiven raw with
  | error excess => rfl
  | ok rule =>
    cases candidates with
    | nil => rfl
    | cons candidate rest =>
      have hall : rule.value.matchesAll = true := by
        by_contra hsome
        exact h ⟨⟨rule, hread, by simpa using hsome⟩, by simp⟩
      exact ofRule_of_matchesAll hall converter (candidate :: rest) (.fresh caching)

/-- A title that is tried is submitted first of all, and the trial fails if the converter fails on
it. -/
theorem accepts_submits_title (hsome : rule.matchesAll = false) (converter : Converter)
    (title : Text) (caching : Bool) :
    [title] <+: (rule.accepts converter title (.fresh caching)).2.submitted ∧
      ∀ cause, Forms.of converter title = .error cause →
        (rule.accepts converter title (.fresh caching)).1 = .error (.conversion cause) := by
  have hforms : (Ledger.forms converter title (.fresh caching)).2.submitted = [title] := by
    have hunknown : (Ledger.fresh caching).known? title = none := by cases caching <;> rfl
    simp only [Ledger.forms, hunknown]
    cases Forms.of converter title <;> rfl
  have hfresh := Ledger.faithful_fresh converter caching
  rw [rule.accepts_of_groups converter title hsome]
  refine ⟨?_, fun cause hcause => ?_⟩
  · rw [← hforms]
    exact submitted_prefix_andThen _ (halts_forms converter title).replays
      (fun forms => (halts_meetsGroups converter forms rule.groups).replays) hfresh
  · have hfirst : (Ledger.forms converter title (.fresh caching)).1 = .error cause := by
      rw [hfresh.forms_fst, hcause]
    exact andThen_fst_of_error hfirst _ _

/-- A pass with a title to be tried submits the first one before any other text, and it ends there
if the converter fails on it. -/
theorem Tries.submits_first {first : Candidate H} {rest : List (Candidate H)}
    (h : Tries raw (first :: rest)) (hhandle : HandleKind.unhashable? first.handle = none)
    (converter : Converter) (caching : Bool) :
    [first.title] <+: (run converter caching raw (first :: rest)).2.submitted ∧
      ∀ cause, Forms.of converter first.title = .error cause →
        (run converter caching raw (first :: rest)).1 =
          .error (.evaluation (.conversion cause)) := by
  obtain ⟨⟨rule, hread, hsome⟩, -⟩ := h
  obtain ⟨htitle, hfails⟩ := accepts_submits_title hsome converter first.title caching
  have hfresh := Ledger.faithful_fresh converter caching
  have haccepts := (rule.value.halts_accepts converter first.title).replays
  have hfault : handleFault? [] first.handle = none := by
    simp only [handleFault?, hhandle, List.any_nil, Bool.false_eq_true, if_false]
  have hdecide : decide converter rule.value [] (first :: rest) =
      andThen (rule.value.accepts converter first.title) .evaluation fun visible =>
        decide converter rule.value ([] ++ [⟨first.handle, visible⟩]) rest := by
    rw [decide_cons, hfault]
  have hrun : run converter caching raw (first :: rest) =
      ofRule converter rule.value (first :: rest) (.fresh caching) := by
    simp only [run, hread]
  rw [hrun, ofRule_eq_andThen, hdecide]
  refine ⟨?_, fun cause hcause => ?_⟩
  · refine htitle.trans (List.IsPrefix.trans ?_ (submitted_prefix_andThen id ?_ ?_ hfresh))
    · exact submitted_prefix_andThen _ haccepts (fun visible => (halts_decide ..).replays) hfresh
    · rw [← hdecide]
      exact (halts_decide converter rule.value [] (first :: rest)).replays
    · exact fun decisions => (@halts_const _ _ PassFault.cause? converter _ rfl).replays
  · exact andThen_fst_of_error (andThen_fst_of_error (hfails cause hcause) _ _) id _

/-- Where the handles can be looked up, something is submitted exactly if there is a title to be
tried. -/
theorem submitted_run_eq_nil_iff
    (hhandles : ∀ candidate ∈ candidates, HandleKind.unhashable? candidate.handle = none)
    (converter : Converter) (caching : Bool) :
    (run converter caching raw candidates).2.submitted = [] ↔ ¬ Tries raw candidates := by
  constructor
  · intro hnone htries
    obtain ⟨first, rest, rfl⟩ := List.exists_cons_of_ne_nil htries.2
    obtain ⟨hfirst, -⟩ :=
      htries.submits_first (hhandles first List.mem_cons_self) converter caching
    rw [hnone] at hfirst
    cases List.prefix_nil.mp hfirst
  · intro h
    rw [run_of_not_tries h]
    rfl

/-- A pass that keeps forms submits what the same pass submits without keeping any, each text at
its first occurrence only. So no text is submitted twice, and the first conversion is asked once for
each of them; the second one too, if the pass succeeds. A pass that ends with the failure of a text
has submitted that text last and does not know it. Without candidates, or with a rule that every
title meets, nothing is submitted at all. -/
theorem run_submits_first_occurrences (converter : Converter) (raw : Option Text)
    (candidates : List (Candidate H)) :
    let kept := run converter true raw candidates
    let plain := run converter false raw candidates
    let distinct := plain.2.submitted.toFinset.card
    kept.2.submitted = plain.2.submitted.eraseDups ∧
      kept.2.submitted.Nodup ∧ (converter.calls kept.2.submitted).1 = distinct ∧
      (∀ pass, kept.1 = .ok pass → converter.calls kept.2.submitted = (distinct, distinct)) ∧
      (∀ cause, kept.1 = .error (.evaluation (.conversion cause)) →
        ∃ text, kept.2.submitted.getLast? = some text ∧ plain.2.submitted.getLast? = some text ∧
          Forms.of converter text = .error cause ∧ kept.2.known? text = none) ∧
      (candidates = [] ∨
          (∃ rule, Rule.readGiven raw = .ok rule ∧ rule.value.matchesAll = true) →
        kept.2.submitted = [] ∧ plain.2.submitted = []) := by
  intro kept plain distinct
  obtain ⟨outcome, asked, hasked, hrun⟩ := run_asks converter raw candidates
  have hkept : kept = (outcome, (Ledger.fresh true).visit converter asked) := hrun true
  have hplain : plain.2.submitted = asked := by
    have hvisit : (Ledger.fresh false).visit converter asked = ⟨none, [] ++ asked⟩ :=
      Ledger.visit_keeping_nothing converter [] asked
    rw [show plain = _ from hrun false, hvisit, List.nil_append]
  have hsubmitted : kept.2.submitted = asked.eraseDups := by
    rw [hkept]
    exact Ledger.submitted_visit_fresh hasked
  have hdistinct : distinct = asked.toFinset.card := by rw [← hplain]
  refine ⟨by rw [hsubmitted, hplain], by rw [hsubmitted]; exact Ledger.nodup_eraseDups asked,
    ?_, fun pass hpass => ?_, fun cause hcause => ?_, fun hnone => ?_⟩
  · rw [hdistinct, ← Ledger.length_eraseDups, ← hsubmitted]
    rfl
  · have houtcome : outcome = .ok pass := by rw [← hpass, hkept]
    rw [houtcome] at hasked
    rw [hsubmitted, hdistinct]
    exact Converter.calls_eraseDups hasked
  · have houtcome : outcome = .error (.evaluation (.conversion cause)) := by rw [← hcause, hkept]
    rw [houtcome] at hasked
    obtain ⟨text, hlast, hlast', hforms, hknown⟩ := Ledger.known?_visit_fresh hasked
    refine ⟨text, by rw [hsubmitted, hlast'], by rw [hplain, hlast], hforms, ?_⟩
    rw [hkept]
    exact hknown
  · have hfresh : ∀ caching, (run converter caching raw candidates).2.submitted = [] := by
      intro caching
      rw [run_of_not_tries (not_tries hnone)]
      rfl
    exact ⟨hfresh true, hfresh false⟩

def repeatedTitles : List (Candidate Handle) :=
  [⟨.int 0, ['x', 'a']⟩, ⟨.int 1, ['x']⟩, ⟨.int 2, ['x', 'a']⟩]

def twoTitles : List (Candidate Handle) := [⟨.null, ['a']⟩, ⟨.int 1, ['x']⟩]

def failingOnX : Converter := .ofTable ⟨[], [], some ['x'], none⟩

/-- One of the titles is a literal of the rule too. A pass that ends with the second of two titles
does not know it. -/
theorem run_submits_first_occurrences_repeated :
    (run .identity false (some ['x', ';', 'a']) repeatedTitles).2.submitted =
        [['x', 'a'], ['x'], ['a'], ['x'], ['x'], ['a'], ['x', 'a'], ['x'], ['a']] ∧
      (run .identity true (some ['x', ';', 'a']) repeatedTitles).2.submitted =
        [['x', 'a'], ['x'], ['a']] ∧
      (run failingOnX true (some ['a']) twoTitles).2.submitted.getLast? = some ['x'] ∧
      (run failingOnX true (some ['a']) twoTitles).2.known? ['x'] = none := by
  have hplain : (run .identity false (some ['x', ';', 'a']) repeatedTitles).2.submitted =
      [['x', 'a'], ['x'], ['a'], ['x'], ['x'], ['a'], ['x', 'a'], ['x'], ['a']] := by decide
  have hfault : (run failingOnX true (some ['a']) twoTitles).1 =
      .error (.evaluation (.conversion (.variantA ['x']))) := rfl
  have hlast : (run failingOnX true (some ['a']) twoTitles).2.submitted.getLast? = some ['x'] := by
    decide
  obtain ⟨hkept, -⟩ :=
    run_submits_first_occurrences .identity (some ['x', ';', 'a']) repeatedTitles
  obtain ⟨-, -, -, -, hfailed, -⟩ :=
    run_submits_first_occurrences failingOnX (some ['a']) twoTitles
  obtain ⟨text, htext, -, -, hknown⟩ := hfailed _ hfault
  obtain rfl : ['x'] = text := Option.some.inj (hlast.symm.trans htext)
  exact ⟨hplain, hkept.trans (by rw [hplain]; decide), hlast, hknown⟩

end Pass

end TitleSieve
