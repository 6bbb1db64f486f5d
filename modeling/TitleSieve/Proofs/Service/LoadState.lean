import TitleSieve.Proofs.Service.Histories

/-!
When the shared converter is loaded. A request needs forms if it is a valid one to filter, its rule
can be read and has a group, and there is a candidate: then the first title is submitted, and
nothing is submitted for any other request. So the converter is loaded after the first request that
needs forms, if it can be loaded at all; if it cannot, just these requests fail.
-/

namespace TitleSieve.Service

open Json Listing Markup

/-- The rule can be read and has a group. -/
def Narrows (rule : Text) : Prop :=
  ∃ read, Rule.read rule = .ok read ∧ read.value.groups ≠ []

/-- The text is a page with a listing, and a row of the listing has a title. -/
def OffersTitle (html : Text) : Prop :=
  ∃ page found, Forest.read html = .ok page ∧ rows page = .ok found ∧
    ∃ row ∈ found, hasTitle row = true

/-- The request is a valid one to filter, with a rule that has a group and with a candidate. -/
def Request.NeedsForms (request : Request) : Prop :=
  (request.LeadsTo .filter ∧ ∃ form, request.body.form FilterForm.read = .ok form ∧
    Narrows form.rule ∧ form.entries ≠ []) ∨
  (request.LeadsTo .filterPage ∧ ∃ form, request.body.form PageForm.read = .ok form ∧
    Narrows form.rule ∧ OffersTitle form.html)

def Response.Reports (loaded : Bool) (response : Response) : Prop :=
  ∃ value, response = .answered value ∧ value.field? "converter_loaded" = some (.bool loaded)

theorem tries_iff {rule : Text} {found : List (Candidate Handle)} :
    Pass.Tries (some rule) found ↔ Narrows rule ∧ found ≠ [] := by
  have hgroups : ∀ read : Rule, read.matchesAll = false ↔ read.groups ≠ [] :=
    fun read => List.isEmpty_eq_false_iff
  simp only [Pass.Tries, Narrows, Rule.readGiven, Option.getD_some, hgroups]

theorem ne_nil_iff_offersTitle {html : Text} {found : List (Candidate Handle)}
    (h : candidates html = .ok found) : found ≠ [] ↔ OffersTitle html := by
  obtain ⟨page, before, hpage, hrows, rfl⟩ := candidates_eq_ok_iff.mp h
  have hcount : (titlesFrom 0 before).map candidateOf ≠ [] ↔ 0 < before.countP hasTitle := by
    rw [← length_titlesFrom 0 before, List.length_pos_iff, Ne, List.map_eq_nil_iff]
  rw [hcount, List.countP_pos_iff]
  constructor
  · exact fun hrow => ⟨page, before, hpage, hrows, hrow⟩
  · rintro ⟨page', before', hpage', hrows', hrow⟩
    obtain rfl : page = page' := Except.ok.inj (hpage.symm.trans hpage')
    obtain rfl : before = before' := Except.ok.inj (hrows.symm.trans hrows')
    exact hrow

variable {request : Request}

theorem Request.needsForms_iff :
    request.NeedsForms ↔
      ∃ answer rule found, request.Asks answer rule found ∧ Pass.Tries (some rule) found := by
  constructor
  · rintro (⟨hroute, form, hform, hrule, hentries⟩ | ⟨hroute, form, hform, hrule, hoffers⟩)
    · exact ⟨_, _, _, .titles hroute hform, tries_iff.mpr ⟨hrule, by simpa using hentries⟩⟩
    · have hfound : ∃ found, candidates form.html = .ok found := by
        obtain ⟨page, before, hpage, hrows, -⟩ := hoffers
        exact ⟨_, candidates_eq_ok_iff.mpr ⟨page, before, hpage, hrows, rfl⟩⟩
      obtain ⟨found, hfound⟩ := hfound
      exact ⟨_, _, _, .page hroute hform hfound,
        tries_iff.mpr ⟨hrule, (ne_nil_iff_offersTitle hfound).mpr hoffers⟩⟩
  · rintro ⟨answer, rule, found, hasks, htries⟩
    obtain ⟨hrule, hfound⟩ := tries_iff.mp htries
    cases hasks with
    | titles hroute hform =>
      exact .inl ⟨hroute, _, hform, hrule, by simpa using hfound⟩
    | page hroute hform hcandidates =>
      exact .inr ⟨hroute, _, hform, hrule, (ne_nil_iff_offersTitle hcandidates).mp hfound⟩

theorem Request.Asks.not_tries {answer : Pass Handle → Value} {rule : Text}
    {found : List (Candidate Handle)} (hasks : request.Asks answer rule found)
    (h : ¬ request.NeedsForms) :
    ¬ Pass.Tries (some rule) found :=
  fun htries => h (needsForms_iff.mpr ⟨answer, rule, found, hasks, htries⟩)

theorem passReply_submitted (answer : Pass Handle → Value) (converter : Converter) (caching : Bool)
    (clock : Clock) (rule : Text) (found : List (Candidate Handle)) :
    (passReply answer converter caching clock rule found).submitted =
      (Pass.run converter caching (some rule) found).2.submitted := by
  unfold passReply
  rcases Pass.run converter caching (some rule) found with ⟨_ | _, _⟩ <;> rfl

theorem passReply_of_not_tries {rule : Text} {found : List (Candidate Handle)}
    (h : ¬ Pass.Tries (some rule) found) (answer : Pass Handle → Value) (converter : Converter)
    (caching : Bool) (clock : Clock) :
    passReply answer converter caching clock rule found =
      passReply answer .identity caching clock rule found := by
  unfold passReply
  rw [Pass.run_of_not_tries h converter, Pass.run_of_not_tries h .identity]

/-- A request that needs forms brings a first candidate with a text as its handle. -/
theorem Request.NeedsForms.first (h : request.NeedsForms) :
    ∃ answer rule first rest, request.Asks answer rule (first :: rest) ∧
      Pass.Tries (some rule) (first :: rest) ∧ HandleKind.unhashable? first.handle = none := by
  obtain ⟨answer, rule, found, hasks, htries⟩ := needsForms_iff.mp h
  cases found with
  | nil => exact absurd rfl htries.2
  | cons first rest =>
    exact ⟨answer, rule, first, rest, hasks, htries,
      hasks.unhashable?_eq_none List.mem_cons_self⟩

/-- Without need of forms, every converter makes the same reply. -/
theorem reply_of_not_needsForms {service other : Service} (h : ¬ request.NeedsForms)
    (hsettings : service.settings = other.settings) (hhealth : ¬ request.LeadsTo .health)
    (now : Moment) : service.reply now request = other.reply now request := by
  obtain hroute | ⟨answer, rule, found, hasks⟩ | ⟨response, hreply, -⟩ := request.reply_cases
  · exact absurd hroute hhealth
  · have htries := hasks.not_tries h
    rw [hasks.reply_eq, hasks.reply_eq, passReply_of_not_tries htries answer service.converter,
      passReply_of_not_tries htries answer other.converter, hsettings]
  · rw [hreply, hreply]

/-- A request submits something exactly if it needs forms. -/
theorem submitted_ne_nil_iff (service : Service) (now : Moment) :
    (service.reply now request).submitted ≠ [] ↔ request.NeedsForms := by
  constructor
  · intro hsubmitted
    by_contra h
    apply hsubmitted
    obtain hroute | ⟨answer, rule, found, hasks⟩ | ⟨response, hreply, -⟩ := request.reply_cases
    · rw [hroute.reply_eq]
      rfl
    · rw [hasks.reply_eq, passReply_submitted, Pass.run_of_not_tries (hasks.not_tries h)]
      rfl
    · rw [hreply]
      rfl
  · intro h hnil
    obtain ⟨answer, rule, first, rest, hasks, htries, hhandle⟩ := h.first
    obtain ⟨hfirst, -⟩ := htries.submits_first hhandle service.converter service.settings.caching
    rw [hasks.reply_eq, passReply_submitted] at hnil
    rw [hnil] at hfirst
    exact absurd (List.prefix_nil.mp hfirst) (List.cons_ne_nil _ _)

/-- A request that needs forms fails if there are no conversions. -/
theorem Request.NeedsForms.status_of_missing (h : request.NeedsForms) {service : Service}
    (hmissing : service.converter = .missing) (now : Moment) :
    (service.reply now request).response.status = 500 := by
  obtain ⟨answer, rule, first, rest, hasks, htries, hhandle⟩ := h.first
  obtain ⟨-, hfails⟩ := htries.submits_first hhandle .missing service.settings.caching
  have hrun := hfails .unavailable rfl
  rw [hasks.reply_eq, hmissing]
  unfold passReply
  rcases houtcome : Pass.run .missing service.settings.caching (some rule) (first :: rest) with
    ⟨outcome, ledger⟩
  rw [houtcome] at hrun
  obtain rfl : outcome = .error (.evaluation (.conversion .unavailable)) := hrun
  exact passFailure_status _

variable {settings : Settings} {library : ScriptLibrary} {service : Service}

theorem Serving.shared_answer (h : Serving settings library none service) (now : Moment)
    (request : Request) :
    (service.answer now request).2.shared =
      service.shared.after (service.reply now request).submitted := by
  have hreplacement : service.replacement.isSome = false := by rw [h.replacement_eq]; rfl
  rw [Service.answer, h.settle_eq]
  simp only [submit, hreplacement, Bool.false_eq_true, if_false]

/-- In the course of requests texts are submitted exactly if one of the requests needs forms. -/
theorem Serving.shared_answerAll (h : Serving settings library none service)
    (asked : List (Moment × Request)) :
    ∃ texts, (service.answerAll asked).2.shared = service.shared.after texts ∧
      (texts ≠ [] ↔ ∃ entry ∈ asked, entry.2.NeedsForms) := by
  induction asked generalizing service with
  | nil => exact ⟨[], rfl, by simp⟩
  | cons entry rest ih =>
    obtain ⟨texts, hshared, htexts⟩ := ih (h.answer entry.1 entry.2)
    refine ⟨(service.reply entry.1 entry.2).submitted ++ texts, ?_, ?_⟩
    · rw [LazyConverter.after_append, ← h.shared_answer]
      exact hshared
    · rw [List.exists_mem_cons_iff, ← htexts, ← submitted_ne_nil_iff service entry.1, ne_eq,
        List.append_eq_nil_iff, not_and_or]

theorem reports_health (service : Service) (now : Moment) {request : Request}
    (hhealth : request.LeadsTo .health) :
    (service.answer now request).1.Reports service.shared.isLoaded := by
  have hreply : service.reply now request = .plain (service.health now.uptime) :=
    hhealth.reply_eq now service
  rw [Service.answer, hreply]
  exact ⟨_, rfl, rfl⟩

/-- What a request gets where the converter cannot be loaded: it fails if it needs forms, and
otherwise the missing conversions make no difference. -/
structure WithoutForms (settings : Settings) (entry : Moment × Request) (response : Response) :
    Prop where
  status_eq : entry.2.NeedsForms → response.status = 500
  response_eq : ¬ entry.2.NeedsForms → ¬ entry.2.LeadsTo .health →
    ∀ (working : ScriptLibrary) (replacement : Option Converter),
      response = ((start settings working replacement).answer entry.1 entry.2).1

theorem Serving.answer_without_forms (h : Serving settings library none service)
    (hmissing : library.hasBoth settings.scripts = false) (entry : Moment × Request) :
    WithoutForms settings entry (service.answer entry.1 entry.2).1 := by
  have hconverter : service.converter = .missing := by
    rw [converter, h.replacement_eq, Option.getD_none, h.converter_eq]
    exact LazyConverter.converter_of_not_hasBoth hmissing
  refine ⟨fun hneeds => ?_, fun hneeds hhealth working replacement => ?_⟩
  · rw [h.answer_fst]
    exact hneeds.status_of_missing hconverter entry.1
  · have hother := serving_start settings working replacement
    have hreply : service.reply entry.1 entry.2 =
        (start settings working replacement).reply entry.1 entry.2 :=
      reply_of_not_needsForms hneeds h.settings_eq hhealth entry.1
    rw [h.answer_fst, hother.answer_fst, hreply]

/-- The load state of the shared converter in the course of requests. Both conversions have been
taken or neither, and what has been taken stays. If the library has both, the service reports the
converter as loaded exactly after a request that needs forms, whatever became of that request. If
one is missing, the converter is never loaded, requests that need forms fail, and every other
request gets the response that it gets with any other converter. -/
theorem answerAll_loads_when_needed (settings : Settings) (library : ScriptLibrary)
    (asked : List (Moment × Request)) :
    let run := answerAll asked (start settings library none)
    run.2.shared.Whole ∧
      (∀ more, (∀ a, run.2.shared.conversionA = some a →
          (answerAll more run.2).2.shared.conversionA = some a) ∧
        ∀ b, run.2.shared.conversionB = some b →
          (answerAll more run.2).2.shared.conversionB = some b) ∧
      (library.hasBoth settings.scripts = true → ∀ now request, request.LeadsTo .health →
        ∃ loaded, (run.2.answer now request).1.Reports loaded ∧
          (loaded = true ↔ ∃ entry ∈ asked, entry.2.NeedsForms)) ∧
      (library.hasBoth settings.scripts = false →
        (∀ now request, request.LeadsTo .health → (run.2.answer now request).1.Reports false) ∧
          List.Forall₂ (WithoutForms settings) asked run.1) := by
  intro run
  have hstart := serving_start settings library none
  have hrun : Serving settings library none run.2 := hstart.answerAll asked
  obtain ⟨texts, hshared, htexts⟩ := hstart.shared_answerAll asked
  have hfresh : run.2.shared = (LazyConverter.fresh library settings.scripts).after texts := hshared
  have hloaded : run.2.shared.isLoaded = (!texts.isEmpty && library.hasBoth settings.scripts) := by
    rw [hfresh, LazyConverter.isLoaded_after_fresh]
  have hwhole : run.2.shared.Whole := by
    rw [hfresh]
    exact (LazyConverter.whole_fresh library settings.scripts).after texts
  refine ⟨hwhole, fun more => ?_, fun hboth now request hhealth => ?_, fun hmissing => ⟨?_, ?_⟩⟩
  · obtain ⟨later, hlater, -⟩ := hrun.shared_answerAll more
    rw [hlater]
    exact hwhole.after_keeps later
  · refine ⟨_, reports_health run.2 now hhealth, ?_⟩
    rw [hloaded, hboth, Bool.and_true, ← htexts]
    simp
  · intro now request hhealth
    have hreports := reports_health run.2 now hhealth
    rwa [hloaded, hmissing, Bool.and_false] at hreports
  · exact hstart.forall₂_answerAll
      (fun service hservice entry => hservice.answer_without_forms hmissing entry) asked

def healthRequest : Request := ⟨"GET".toList, "/health".toList, .absent⟩

theorem needsForms_oneTitle (title : Text) : (oneTitle title).NeedsForms :=
  .inl ⟨⟨rfl, rfl⟩, ⟨['a'], [([], title)]⟩, rfl, ⟨_, rfl, List.cons_ne_nil _ _⟩,
    List.cons_ne_nil _ _⟩

/-- The title cannot be converted in either case, but the converter is loaded in the first one. -/
theorem answerAll_loads_when_needed_failing_title :
    let asked := [(noon, oneTitle ['x'])]
    let failing := answerAll asked (start .default ⟨fun _ => some fun _ => none⟩ none)
    let absent := answerAll asked (start .default ⟨fun _ => none⟩ none)
    failing.1.map Response.status = [500] ∧
      (failing.2.answer noon healthRequest).1.Reports true ∧
      absent.1.map Response.status = [500] ∧
      (absent.2.answer noon healthRequest).1.Reports false := by
  intro asked failing absent
  have hhealth : healthRequest.LeadsTo .health := by decide
  obtain ⟨-, -, hloads, -⟩ :=
    answerAll_loads_when_needed .default ⟨fun _ => some fun _ => none⟩ asked
  obtain ⟨loaded, hreports, hloaded⟩ := hloads rfl noon healthRequest hhealth
  obtain ⟨-, -, -, hmissing⟩ := answerAll_loads_when_needed .default ⟨fun _ => none⟩ asked
  obtain rfl := hloaded.mpr ⟨_, List.mem_singleton_self _, needsForms_oneTitle ['x']⟩
  exact ⟨rfl, hreports, rfl, (hmissing rfl).1 noon healthRequest hhealth⟩

end TitleSieve.Service
