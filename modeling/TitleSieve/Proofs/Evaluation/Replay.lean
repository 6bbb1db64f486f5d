import TitleSieve.Evaluation.Basic

/-!
Evaluations and the ledgers they are given. A ledger is faithful when it knows of no text anything
but what the converter makes of it. From a faithful ledger an evaluation comes to what it comes to
on its own, and it leaves the ledger that is left when the texts it asks for on its own are asked
for one after the other. What an evaluation does is therefore settled by a run with nothing known
and nothing kept. It goes on asking until the converter fails on a text, and that failure is then
what it comes to.
-/

namespace TitleSieve

namespace FormsCache

theorem known?_put (text other : Text) (forms : Forms) (cache : FormsCache) :
    (put text forms cache).known? other =
      if other = text then some forms else cache.known? other := by
  induction cache with
  | nil =>
    by_cases h : other = text
    · simp [put, known?, h]
    · have hbeq : (other == text) = false := by simpa using h
      simp [put, known?, List.lookup_cons, h, hbeq]
  | cons entry rest ih =>
    obtain ⟨known, old⟩ := entry
    simp only [known?] at ih
    by_cases hknown : known = text
    · subst hknown
      by_cases h : other = known
      · simp [put, known?, h]
      · have hbeq : (other == known) = false := by simpa using h
        simp [put, known?, List.lookup_cons, h, hbeq]
    · by_cases h : other = known
      · subst h
        simp [put, known?, hknown]
      · have hbeq : (other == known) = false := by simpa using h
        simp only [put, if_neg hknown, known?, List.lookup_cons, hbeq]
        exact ih

end FormsCache

namespace Ledger

/-- Whatever is known of a text is what the converter makes of it. -/
def Faithful (converter : Converter) (ledger : Ledger) : Prop :=
  ∀ text forms, ledger.known? text = some forms → Forms.of converter text = .ok forms

/-- The ledger after the forms of these texts have been asked for, one after the other. -/
def visit (converter : Converter) (texts : List Text) (ledger : Ledger) : Ledger :=
  texts.foldl (fun ledger text => (ledger.forms converter text).2) ledger

variable {converter : Converter} {ledger : Ledger}

theorem faithful_fresh (converter : Converter) (caching : Bool) :
    (fresh caching).Faithful converter := by
  intro text forms h
  cases caching <;> simp [fresh, known?, FormsCache.known?] at h

theorem Faithful.submit (h : ledger.Faithful converter) (text : Text) :
    (ledger.submit text).Faithful converter := h

theorem Faithful.remember (h : ledger.Faithful converter) {text : Text} {forms : Forms}
    (hforms : Forms.of converter text = .ok forms) :
    (ledger.remember text forms).Faithful converter := by
  intro other found hfound
  cases hcache : ledger.cache with
  | none => simp [Ledger.remember, known?, hcache] at hfound
  | some cache =>
    simp only [Ledger.remember, known?, hcache, Option.map_some, Option.bind_some,
      FormsCache.known?_put] at hfound
    by_cases heq : other = text
    · subst heq
      rw [if_pos rfl] at hfound
      exact hforms.trans (congrArg _ (Option.some.inj hfound))
    · rw [if_neg heq] at hfound
      exact h other found (by simpa [known?, hcache] using hfound)

/-- A faithful ledger answers as the converter does. -/
theorem Faithful.forms_fst (h : ledger.Faithful converter) (text : Text) :
    (ledger.forms converter text).1 = Forms.of converter text := by
  unfold Ledger.forms
  cases hknown : ledger.known? text with
  | some forms => exact (h text forms hknown).symm
  | none => cases Forms.of converter text <;> rfl

theorem Faithful.forms_snd (h : ledger.Faithful converter) (text : Text) :
    (ledger.forms converter text).2.Faithful converter := by
  unfold Ledger.forms
  cases hknown : ledger.known? text with
  | some forms => exact h
  | none =>
    cases hforms : Forms.of converter text with
    | error fault => exact h.submit text
    | ok forms => exact (h.submit text).remember hforms

theorem Faithful.visit (h : ledger.Faithful converter) (texts : List Text) :
    (ledger.visit converter texts).Faithful converter := by
  induction texts generalizing ledger with
  | nil => exact h
  | cons text rest ih => exact ih (h.forms_snd text)

theorem visit_append (first second : List Text) :
    ledger.visit converter (first ++ second) =
      (ledger.visit converter first).visit converter second :=
  List.foldl_append ..

/-- A ledger that keeps nothing takes down every text that is asked for. -/
theorem visit_keeping_nothing (converter : Converter) (submitted texts : List Text) :
    (Ledger.mk none submitted).visit converter texts = ⟨none, submitted ++ texts⟩ := by
  induction texts generalizing submitted with
  | nil => simp [visit]
  | cons text rest ih =>
    have hforms : ((Ledger.mk none submitted).forms converter text).2 =
        ⟨none, submitted ++ [text]⟩ := by
      simp only [Ledger.forms, known?, Option.bind_none]
      cases Forms.of converter text <;> rfl
    have hcons : (Ledger.mk none submitted).visit converter (text :: rest) =
        ((Ledger.mk none submitted).forms converter text).2.visit converter rest := rfl
    rw [hcons, hforms, ih, List.append_assoc, List.singleton_append]

/-- What has been submitted stays submitted. -/
theorem submitted_prefix_forms (text : Text) :
    ledger.submitted <+: (ledger.forms converter text).2.submitted := by
  unfold Ledger.forms
  cases ledger.known? text with
  | some forms => exact List.prefix_rfl
  | none => cases Forms.of converter text <;> exact List.prefix_append ..

theorem submitted_prefix_visit (texts : List Text) :
    ledger.submitted <+: (ledger.visit converter texts).submitted := by
  induction texts generalizing ledger with
  | nil => exact List.prefix_rfl
  | cons text rest ih => exact (submitted_prefix_forms text).trans ih

end Ledger

def Converter.Converts (converter : Converter) (text : Text) : Prop :=
  ∃ forms, Forms.of converter text = .ok forms

/-- The converter has been asked for these texts, and has failed on none of them, or on the last one
and on no other. -/
inductive Asked (converter : Converter) : Option ConversionFault → List Text → Prop where
  | all {texts : List Text} (h : ∀ text ∈ texts, converter.Converts text) :
      Asked converter none texts
  | failing {before : List Text} {text : Text} {cause : ConversionFault}
      (h : ∀ earlier ∈ before, converter.Converts earlier)
      (hlast : Forms.of converter text = .error cause) :
      Asked converter (some cause) (before ++ [text])

theorem Asked.append {converter : Converter} {cause : Option ConversionFault}
    {first second : List Text} (hfirst : ∀ text ∈ first, converter.Converts text)
    (hsecond : Asked converter cause second) : Asked converter cause (first ++ second) := by
  cases hsecond with
  | all h => exact .all (List.forall_mem_append.mpr ⟨hfirst, h⟩)
  | failing h hlast =>
    rw [← List.append_assoc]
    exact .failing (List.forall_mem_append.mpr ⟨hfirst, h⟩) hlast

/-- The failed conversion in a fault, if it is one. -/
def EvaluationFault.cause? : EvaluationFault → Option ConversionFault
  | .conversion cause => some cause
  | .unknownTerm _ => none

/-- What is done with a ledger and may fail. -/
abbrev Evaluation (ε α : Type) := Ledger → Except ε α × Ledger

namespace Evaluation

variable {ε ε' α β : Type} {converter : Converter}

/-- From every faithful ledger the evaluation comes to the same outcome and asks for the same
texts in the same order. -/
def Replays (converter : Converter) (evaluation : Evaluation ε α) : Prop :=
  ∃ outcome asked, ∀ ledger : Ledger, ledger.Faithful converter →
    evaluation ledger = (outcome, ledger.visit converter asked)

/-- The outcome and the texts are those of the evaluation on its own. -/
theorem Replays.eq_own {evaluation : Evaluation ε α} (h : evaluation.Replays converter)
    {ledger : Ledger} (hledger : ledger.Faithful converter) :
    evaluation ledger = ((evaluation (.fresh false)).1,
      ledger.visit converter (evaluation (.fresh false)).2.submitted) := by
  obtain ⟨outcome, asked, hall⟩ := h
  have hown := hall _ (Ledger.faithful_fresh converter false)
  rw [show Ledger.fresh false = ⟨none, []⟩ from rfl, Ledger.visit_keeping_nothing] at hown
  rw [hall ledger hledger, show Ledger.fresh false = ⟨none, []⟩ from rfl, hown, List.nil_append]

theorem Replays.outcome {evaluation : Evaluation ε α} (h : evaluation.Replays converter)
    {ledger : Ledger} (hledger : ledger.Faithful converter) :
    (evaluation ledger).1 = (evaluation (.fresh false)).1 := by
  rw [h.eq_own hledger]

theorem Replays.faithful {evaluation : Evaluation ε α} (h : evaluation.Replays converter)
    {ledger : Ledger} (hledger : ledger.Faithful converter) :
    (evaluation ledger).2.Faithful converter := by
  rw [h.eq_own hledger]
  exact hledger.visit _

theorem Replays.submitted_prefix_snd {evaluation : Evaluation ε α}
    (h : evaluation.Replays converter) {ledger : Ledger} (hledger : ledger.Faithful converter) :
    ledger.submitted <+: (evaluation ledger).2.submitted := by
  rw [h.eq_own hledger]
  exact Ledger.submitted_prefix_visit _

def failure? (cause? : ε → Option ConversionFault) : Except ε α → Option ConversionFault
  | .ok _ => none
  | .error fault => cause? fault

/-- The evaluation replays, and it asks for texts until the converter fails on one. -/
def Halts (cause? : ε → Option ConversionFault) (converter : Converter)
    (evaluation : Evaluation ε α) : Prop :=
  ∃ outcome asked, Asked converter (failure? cause? outcome) asked ∧
    ∀ ledger : Ledger, ledger.Faithful converter →
      evaluation ledger = (outcome, ledger.visit converter asked)

theorem Halts.replays {cause? : ε → Option ConversionFault} {evaluation : Evaluation ε α}
    (h : evaluation.Halts cause? converter) : evaluation.Replays converter := by
  obtain ⟨outcome, asked, -, hall⟩ := h
  exact ⟨outcome, asked, hall⟩

theorem halts_const {cause? : ε → Option ConversionFault} (converter : Converter)
    {outcome : Except ε α} (h : failure? cause? outcome = none) :
    Halts cause? converter fun ledger => (outcome, ledger) := by
  refine ⟨outcome, [], ?_, fun _ _ => rfl⟩
  rw [h]
  exact .all (by simp)

theorem halts_forms (converter : Converter) (text : Text) :
    Halts some converter (Ledger.forms converter text) := by
  refine ⟨Forms.of converter text, [text], ?_, fun _ h => Prod.ext (h.forms_fst text) rfl⟩
  cases hforms : Forms.of converter text with
  | ok forms => exact .all (by simpa using ⟨forms, hforms⟩)
  | error cause => exact @Asked.failing converter [] text cause (by simp) hforms

/-- One evaluation and then another, which depends on what the first one came to. -/
def andThen (first : Evaluation ε α) (fault : ε → ε') (next : α → Evaluation ε' β) :
    Evaluation ε' β := fun ledger =>
  match first ledger with
  | (.error e, ledger) => (.error (fault e), ledger)
  | (.ok value, ledger) => next value ledger

theorem andThen_fst_of_error {first : Evaluation ε α} {ledger : Ledger} {e : ε}
    (h : (first ledger).1 = .error e) (fault : ε → ε') (next : α → Evaluation ε' β) :
    (first.andThen fault next ledger).1 = .error (fault e) := by
  unfold Evaluation.andThen
  rcases houtcome : first ledger with ⟨outcome, after⟩
  rw [houtcome] at h
  obtain rfl : outcome = .error e := h
  rfl

theorem submitted_prefix_andThen {first : Evaluation ε α} {next : α → Evaluation ε' β}
    (fault : ε → ε') (hfirst : first.Replays converter)
    (hnext : ∀ value, (next value).Replays converter) {ledger : Ledger}
    (hledger : ledger.Faithful converter) :
    (first ledger).2.submitted <+: (first.andThen fault next ledger).2.submitted := by
  have hfaithful := hfirst.faithful hledger
  unfold Evaluation.andThen
  rcases houtcome : first ledger with ⟨_ | value, after⟩
  · exact List.prefix_rfl
  · rw [houtcome] at hfaithful
    exact (hnext value).submitted_prefix_snd hfaithful

/-- The second evaluation is reached only if the first one has failed on no text. -/
theorem Halts.andThen {cause? : ε → Option ConversionFault} {first : Evaluation ε α}
    (hfirst : first.Halts cause? converter) (fault : ε → ε')
    (cause?' : ε' → Option ConversionFault) (hfault : ∀ e, cause?' (fault e) = cause? e)
    {next : α → Evaluation ε' β}
    (hnext : ∀ value, (next value).Halts cause?' converter) :
    (first.andThen fault next).Halts cause?' converter := by
  obtain ⟨outcome, asked, hasked, hall⟩ := hfirst
  cases outcome with
  | error e =>
    refine ⟨.error (fault e), asked, ?_, fun ledger hledger => ?_⟩
    · rwa [failure?, hfault]
    · simp only [Evaluation.andThen, hall ledger hledger]
  | ok value =>
    obtain ⟨outcome, more, hmore, hlater⟩ := hnext value
    have hconverts : ∀ text ∈ asked, converter.Converts text := by
      cases hasked with
      | all h => exact h
    refine ⟨outcome, asked ++ more, hmore.append hconverts, fun ledger hledger => ?_⟩
    simp only [Evaluation.andThen, hall ledger hledger]
    rw [hlater _ (hledger.visit asked), Ledger.visit_append]

end Evaluation

open Evaluation

theorem meetsLiteral_cons (converter : Converter) (title : Forms) (literal : Text)
    (rest : List Text) :
    meetsLiteral converter title (literal :: rest) =
      andThen (Ledger.forms converter literal) .conversion fun forms ledger =>
        if title.meets forms then (.ok true, ledger)
        else meetsLiteral converter title rest ledger := by
  funext ledger
  simp only [meetsLiteral, Evaluation.andThen]
  rcases Ledger.forms converter literal ledger with ⟨_ | _, _⟩ <;> rfl

theorem meetsTerm_cons (converter : Converter) (title : Forms) (term : Term) (rest : List Term) :
    meetsTerm converter title (term :: rest) =
      andThen (term.metBy converter title) id fun met ledger =>
        if met then (.ok true, ledger) else meetsTerm converter title rest ledger := by
  funext ledger
  simp only [meetsTerm, Evaluation.andThen]
  rcases term.metBy converter title ledger with ⟨_ | _ | _, _⟩ <;> rfl

theorem meetsGroups_cons (converter : Converter) (title : Forms) (group : Group)
    (rest : List Group) :
    meetsGroups converter title (group :: rest) =
      andThen (meetsTerm converter title group.terms) id fun met ledger =>
        if met then meetsGroups converter title rest ledger else (.ok false, ledger) := by
  funext ledger
  simp only [meetsGroups, Evaluation.andThen]
  rcases meetsTerm converter title group.terms ledger with ⟨_ | _ | _, _⟩ <;> rfl

theorem Rule.accepts_of_groups (converter : Converter) (rule : Rule) (title : Text)
    (h : rule.matchesAll = false) :
    rule.accepts converter title =
      andThen (Ledger.forms converter title) .conversion fun forms =>
        meetsGroups converter forms rule.groups := by
  funext ledger
  simp only [Rule.accepts, h, Evaluation.andThen]
  rcases Ledger.forms converter title ledger with ⟨_ | _, _⟩ <;> rfl

theorem halts_meetsLiteral (converter : Converter) (title : Forms) (literals : List Text) :
    Halts EvaluationFault.cause? converter (meetsLiteral converter title literals) := by
  induction literals with
  | nil => exact halts_const converter rfl
  | cons literal rest ih =>
    rw [meetsLiteral_cons]
    refine (halts_forms converter literal).andThen EvaluationFault.conversion _ (fun _ => rfl)
      fun forms => ?_
    by_cases hmeets : title.meets forms
    · simp only [hmeets, if_true]
      exact halts_const converter rfl
    · simp only [hmeets]
      exact ih

theorem Term.halts_metBy (converter : Converter) (title : Forms) (term : Term) :
    Halts EvaluationFault.cause? converter (term.metBy converter title) := by
  cases term with
  | plain alternatives => exact halts_meetsLiteral converter title alternatives
  | pattern body tree =>
    cases tree with
    | none => exact halts_meetsLiteral converter title [body]
    | some tree => exact halts_const converter rfl
  | unknown kind => exact halts_const converter rfl

theorem halts_meetsTerm (converter : Converter) (title : Forms) (terms : List Term) :
    Halts EvaluationFault.cause? converter (meetsTerm converter title terms) := by
  induction terms with
  | nil => exact halts_const converter rfl
  | cons term rest ih =>
    rw [meetsTerm_cons]
    refine (term.halts_metBy converter title).andThen id _ (fun _ => rfl) fun met => ?_
    cases met with
    | true => exact halts_const converter rfl
    | false => exact ih

theorem halts_meetsGroups (converter : Converter) (title : Forms) (groups : List Group) :
    Halts EvaluationFault.cause? converter (meetsGroups converter title groups) := by
  induction groups with
  | nil => exact halts_const converter rfl
  | cons group rest ih =>
    rw [meetsGroups_cons]
    refine (halts_meetsTerm converter title group.terms).andThen id _ (fun _ => rfl) fun met => ?_
    cases met with
    | true => exact ih
    | false => exact halts_const converter rfl

theorem Rule.accepts_of_matchesAll (converter : Converter) (rule : Rule) (title : Text)
    (h : rule.matchesAll = true) :
    rule.accepts converter title = fun ledger => (.ok true, ledger) := by
  funext ledger
  simp only [Rule.accepts, h, if_true]

/-- Trying a rule on a title does the same whatever is known already, as long as it is right. -/
theorem Rule.halts_accepts (converter : Converter) (rule : Rule) (title : Text) :
    Halts EvaluationFault.cause? converter (rule.accepts converter title) := by
  cases h : rule.matchesAll with
  | true =>
    rw [rule.accepts_of_matchesAll converter title h]
    exact halts_const converter rfl
  | false =>
    rw [rule.accepts_of_groups converter title h]
    exact (halts_forms converter title).andThen EvaluationFault.conversion _ (fun _ => rfl)
      fun forms => halts_meetsGroups converter forms rule.groups

/-- What becomes of a title that is tried on its own, with nothing known and nothing kept. -/
def Rule.alone (converter : Converter) (rule : Rule) (title : Text) : Except EvaluationFault Bool :=
  (rule.accepts converter title (.fresh false)).1

theorem Rule.accepts_fst {converter : Converter} {ledger : Ledger}
    (h : ledger.Faithful converter) (rule : Rule) (title : Text) :
    (rule.accepts converter title ledger).1 = rule.alone converter title :=
  (rule.halts_accepts converter title).replays.outcome h

theorem Rule.accepts_snd {converter : Converter} {ledger : Ledger}
    (h : ledger.Faithful converter) (rule : Rule) (title : Text) :
    (rule.accepts converter title ledger).2.Faithful converter :=
  (rule.halts_accepts converter title).replays.faithful h

end TitleSieve
