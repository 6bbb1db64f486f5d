import TitleSieve.Proofs.Command.LineRuns
import TitleSieve.Proofs.Pass.ExpectedFaults
import TitleSieve.Proofs.Service.FilledForms

/-!
Repeated handles do not come to a pass. The command and the service number lines and rows, and a
form in which a handle comes twice is refused. The refusal shows the list of candidates, so it can
only be sent if there is no infinite or undefined number in it.
-/

namespace TitleSieve

open Json Listing Service

namespace Command

/-- The faults in a pass that the command does not report by itself. -/
inductive Unreported : PassFault → Prop where
  | rule (excess : Pattern.Excess) : Unreported (.rule excess)
  | unavailable : Unreported (.evaluation (.conversion .unavailable))

theorem unreported_of_passFailure {converter : Converter} {raw : Text} {titles : List Text}
    {fault crash : PassFault} {told : Text} (hexpected : Pass.Expected converter raw titles fault)
    (h : (passFailure fault).map (Output.after told) = .error (.pass crash)) :
    Unreported crash := by
  cases hexpected with
  | rule =>
    obtain rfl := Crash.pass.inj (Except.error.inj h)
    exact .rule _
  | @conversion _ _ cause =>
    cases cause with
    | unavailable =>
      obtain rfl := Crash.pass.inj (Except.error.inj h)
      exact .unavailable
    | _ => cases h

theorem unreported_of_filterTitles {world : World} {options : Options}
    {entries : List (Text × Text)} {write : Pass Handle → Except Crash Text} {crash : PassFault}
    (hdistinct : Distinct entries) (hwrite : ∀ pass, write pass ≠ .error (.pass crash))
    (h : filterTitles world options entries write = .error (.pass crash)) : Unreported crash := by
  cases hrun : (Pass.run (converterOf world options) true (some options.rule)
      (entries.map candidateOf)).1 with
  | error fault =>
    rw [filterTitles_of_error hrun] at h
    exact unreported_of_passFailure (Pass.failsAsExpected_of_distinct _ _ hdistinct _ _ hrun) h
  | ok pass =>
    -- What is written of a pass may fail, but not with a fault in the pass.
    cases hwritten : write pass with
    | ok out =>
      rw [filterTitles_of_ok hrun hwritten] at h
      cases h
    | error other =>
      rw [filterTitles_of_write_error hrun hwritten] at h
      obtain rfl : other = .pass crash := Except.error.inj h
      exact absurd hwritten (hwrite pass)

theorem unreported_of_filterPage {world : World} {options : Options} {raw : Text}
    {crash : PassFault} (h : filterPage world options raw = .error (.pass crash)) :
    Unreported crash := by
  unfold filterPage at h
  cases htitles : titles raw with
  | error fault =>
    rw [htitles] at h
    cases fault <;> cases h
  | ok entries =>
    simp only [htitles] at h
    refine unreported_of_filterTitles (distinct_titles htitles) (fun pass => ?_) h
    cases applyDecisions raw (decisionsOf pass.decisions) <;> rintro ⟨⟩

/-- A run that ends in a fault of its pass is by a rule that is refused or without a library. -/
theorem unreported_of_run {world : World} {words : List Text} {crash : PassFault}
    (h : run world words = .error (.pass crash)) : Unreported crash := by
  unfold run at h
  cases hoptions : optionsOf world (.ofCommandLine words) with
  | error ending =>
    rw [hoptions] at h
    cases h
  | ok options =>
    rw [hoptions] at h
    simp only [filter] at h
    cases hread : Text.Utf8.decode (options.input.getD world.standardInput) with
    | error error =>
      rw [hread] at h
      cases h
    | ok read =>
      simp only [hread] at h
      cases hhtml : options.html with
      | true =>
        rw [hhtml, if_pos rfl] at h
        exact unreported_of_filterPage h
      | false =>
        rw [hhtml, if_neg Bool.false_ne_true] at h
        exact unreported_of_filterTitles (distinct_textTitles _) (fun pass => by rintro ⟨⟩) h

end Command

namespace Service

variable {request : Request} {service : Service}

/-- A request is answered with its reply unless a line cannot be logged. -/
theorem settle_fst (reply : Reply) (service : Service) :
    (service.settle reply).1 = reply.response ∨ (service.settle reply).1 = .failed := by
  unfold settle
  cases hline : reply.line with
  | none => exact .inl rfl
  | some line =>
    simp only
    cases ((service.submit reply.submitted).logger.log
      (service.submit reply.submitted).attempt line).1 with
    | error fault => exact .inr rfl
    | ok _ => exact .inl rfl

theorem Request.Asks.status {answer : Pass Handle → Value} {rule : Text}
    {found : List (Candidate Handle)} (h : request.Asks answer rule found) (now : Moment)
    (service : Service) :
    (service.answer now request).1.status = 200 ∨ (service.answer now request).1.status = 500 := by
  rcases settle_fst (service.reply now request) service with hfst | hfst
  · rw [Service.answer, hfst, h.reply_eq]
    obtain ⟨response, submitted, ⟨hstatus, line, hpass⟩ | ⟨hstatus, hpass⟩⟩ :=
      passReply_cases answer service.converter service.settings.caching rule found
    · exact .inl (by rw [hpass, hstatus])
    · exact .inr (by rw [hpass, hstatus])
  · exact .inr (by rw [Service.answer, hfst]; rfl)

/-- A form that is refused is answered with its issues. -/
theorem Request.LeadsTo.answer_of_issues (h : request.LeadsTo .filter) {issues : List Issue}
    (hform : request.body.form FilterForm.read = .error (.issues issues)) (now : Moment)
    (service : Service) : (service.answer now request).1 = .ofIssues issues := by
  have hreply : service.reply now request = .plain (.ofIssues issues) := by
    rw [h.reply_eq]
    simp only [replyOn, withForm, hform, Refusal.response]
  rw [Service.answer, hreply]
  rfl

theorem canBeSent_repetition (handle : Text) (items : List Value) :
    canBeSent (.list [(repetition handle items).value]) = itemsCanBeSent (shownItems items) := by
  simp [repetition, Issue.value, Reason.kind, Reason.context, Response.record, Value.string, shown,
    canBeSent, itemsCanBeSent, fieldsCanBeSent, Step.value]

/-- A refusal that cannot be sent leaves the request without an end. -/
theorem ofIssues_repetition_status (handle : Text) (items : List Value) :
    (Response.ofIssues [repetition handle items]).status =
      if itemsCanBeSent (shownItems items) then 422 else 500 := by
  rw [Response.ofIssues, List.map_singleton, canBeSent_repetition]
  split <;> rfl

/-- Among well typed forms, those are refused in which a handle is repeated, if what the refusal
shows can be sent. -/
theorem HoldsForm.status_eq_iff {fields : Fields} {rule : Text} {items : List Value}
    {entries : List (Text × Text)} (h : HoldsForm fields rule items entries)
    (hroute : request.LeadsTo .filter) (hbody : request.body.read = .ok (some (.object fields)))
    (now : Moment) (service : Service) :
    (service.answer now request).1.status = 422 ↔
      ¬ Distinct entries ∧ itemsCanBeSent (shownItems items) = true := by
  have hform : request.body.form FilterForm.read =
      (FilterForm.read (some (.object fields))).mapError .issues := by
    rw [Body.form, hbody]
  by_cases hdistinct : Distinct entries
  · rw [h.read_of_distinct hdistinct] at hform
    have hasks := Request.Brings.asks ⟨hroute, hform⟩
    refine iff_of_false ?_ fun hrefused => hrefused.1 hdistinct
    rcases hasks.status now service with hstatus | hstatus <;> rw [hstatus] <;> decide
  · obtain ⟨handle, -, hread⟩ := h.read_of_not_distinct hdistinct
    rw [hread] at hform
    rw [hroute.answer_of_issues hform, ofIssues_repetition_status, and_iff_right hdistinct]
    cases itemsCanBeSent (shownItems items) <;> decide

end Service

/-- No handle comes twice to a pass over the lines of a text, over the titles of a page, or over an
accepted form; so what is wrong with such a pass is that the rule is refused or that the converter
fails, and of these faults the command reports all but a refused rule and a missing library. A form
that is otherwise well typed is accepted exactly if no handle is repeated; if one is, this is the
only issue, it names the first handle that comes again, and the request is answered with status 422
by every service at any time, provided that what is shown of the candidates can be sent. -/
theorem front_ends_fail_as_expected (converter : Converter) (raw : Text) (fields : Fields)
    (rule : Text) (items : List Value) (entries : List (Text × Text)) :
    (∀ t, Pass.FailsAsExpected converter raw (Command.textTitles t)) ∧
    (∀ html found, titles html = .ok found → Pass.FailsAsExpected converter raw found) ∧
    (∀ body form, FilterForm.read body = .ok form →
      Pass.FailsAsExpected converter form.rule form.entries) ∧
    (∀ world words fault, Command.run world words = .error (.pass fault) →
      Command.Unreported fault) ∧
    (HoldsForm fields rule items entries →
      (Distinct entries → FilterForm.read (some (.object fields)) = .ok ⟨rule, entries⟩) ∧
      (¬ Distinct entries → ∃ handle, FirstRepeated (entries.map Prod.fst) handle ∧
        FilterForm.read (some (.object fields)) = .error [repetition handle items]) ∧
      ∀ request : Request, request.LeadsTo .filter →
        request.body.read = .ok (some (.object fields)) → ∀ now service,
          (Service.answer now request service).1.status = 422 ↔
            ¬ Distinct entries ∧ itemsCanBeSent (shownItems items) = true) := by
  refine ⟨fun t => ?_, fun html found htitles => ?_, fun body form hread => ?_,
    fun world words fault hrun => ?_, fun hform => ⟨?_, ?_, ?_⟩⟩
  · exact Pass.failsAsExpected_of_distinct converter raw (Command.distinct_textTitles t)
  · exact Pass.failsAsExpected_of_distinct converter raw (distinct_titles htitles)
  · obtain ⟨_, _, -, -, hdistinct⟩ := FilterForm.read_eq_ok_iff.mp hread
    exact Pass.failsAsExpected_of_distinct converter form.rule hdistinct
  · exact Command.unreported_of_run hrun
  · exact hform.read_of_distinct
  · exact hform.read_of_not_distinct
  · exact fun request hroute hbody now service => hform.status_eq_iff hroute hbody now service

/-- A title on which the converter fails, a library that is missing, and a handle that comes
twice. -/
theorem front_ends_fail_as_expected_of_one_title :
    let converter := Converter.ofTable ⟨[], [], some ['x'], none⟩
    let fault : PassFault := .evaluation (.conversion (.variantA ['x']))
    let page := "<p id=topic_list><tbody><tr></tr><tr><p class=title>x".toList
    let fields : Fields := [("candidates".toList, .list [candidateValue (['1'], ['x'])])]
    let world := { Command.World.bare with standardInput := [120], converter := .missing }
    let twice := [(['1'], ['x']), (['2'], []), (['1'], ['y'])]
    (Pass.run converter true (some ['a'])
        ((Command.textTitles ['\n', 'x']).map candidateOf)).1 = .error fault ∧
      Pass.Expected converter ['a'] [['x']] fault ∧
      titles page = .ok [(['1'], ['x'])] ∧ Pass.FailsAsExpected converter ['a'] [(['1'], ['x'])] ∧
      FilterForm.read (some (.object fields)) = .ok ⟨[], [(['1'], ['x'])]⟩ ∧
      Pass.FailsAsExpected converter [] [(['1'], ['x'])] ∧
      Command.run world [['a']] = .error (.pass (.evaluation (.conversion .unavailable))) ∧
      Command.Unreported (.evaluation (.conversion .unavailable)) ∧
      ∀ now service, (Service.answer now (titlesRequest ['a'] twice) service).1.status = 422 := by
  intro converter fault page fields world twice
  have hfault : (Pass.run converter true (some ['a'])
      ((Command.textTitles ['\n', 'x']).map candidateOf)).1 = .error fault := rfl
  have htitles : titles page = .ok [(['1'], ['x'])] := by decide +kernel
  have hread : FilterForm.read (some (.object fields)) = .ok ⟨[], [(['1'], ['x'])]⟩ := rfl
  have hrun : Command.run world [['a']] =
      .error (.pass (.evaluation (.conversion .unavailable))) := rfl
  have hholds : HoldsForm [("rule".toList, .text ['a']),
      ("candidates".toList, .list (twice.map candidateValue))] ['a'] (twice.map candidateValue)
      twice := ⟨.inl rfl, .inl rfl, forall₂_holdsEntry twice⟩
  obtain ⟨hlines, hpages, hforms, hruns, hbodies⟩ :=
    front_ends_fail_as_expected converter ['a'] _ _ _ twice
  obtain ⟨-, -, hstatus⟩ := hbodies hholds
  exact ⟨hfault, hlines ['\n', 'x'] true fault hfault, htitles, hpages page _ htitles, hread,
    hforms _ _ hread, hrun, hruns world [['a']] _ hrun, fun now service =>
      (hstatus (titlesRequest ['a'] twice) ⟨rfl, rfl⟩ rfl now service).mpr
        ⟨by decide, by decide⟩⟩

/-- Two candidates with one handle; one of them has an infinite number in a field that is passed
over. -/
def boundless : Request :=
  ⟨Verb.post.name.toList, Route.filter.path.toList, .text "application/json".toList
    ("\x7b\"candidates\":[\x7b\"handle\":\"x\",\"title\":\"a\",\"size\":1e999\x7d," ++
      "\x7b\"handle\":\"x\",\"title\":\"b\"\x7d]\x7d").toList⟩

/-- The refusal of such a form shows the number and cannot be sent. -/
theorem not_every_repetition_refused :
    ¬ ∀ fields rule items entries, HoldsForm fields rule items entries →
      ∀ request : Request, request.LeadsTo .filter →
        request.body.read = .ok (some (.object fields)) → ∀ now service,
          (Service.answer now request service).1.status = 422 ↔ ¬ Distinct entries := by
  intro h
  let items : List Value :=
    [.object [("handle".toList, .text ['x']), ("title".toList, .text ['a']),
      ("size".toList, .double (.infinite false))],
     .object [("handle".toList, .text ['x']), ("title".toList, .text ['b'])]]
  let service := Service.start .default ⟨fun _ => none⟩ none
  have hholds : HoldsForm [("candidates".toList, .list items)] [] items
      [(['x'], ['a']), (['x'], ['b'])] :=
    ⟨.inr ⟨rfl, rfl⟩, .inl rfl, .cons ⟨_, rfl, rfl, rfl⟩ (.cons ⟨_, rfl, rfl, rfl⟩ .nil)⟩
  have hbody : boundless.body.read = .ok (some (.object [("candidates".toList, .list items)])) :=
    rfl
  have hrefused := (h _ _ _ _ hholds boundless ⟨rfl, rfl⟩ hbody noon service).mpr (by decide)
  have hsent := ((hholds.status_eq_iff ⟨rfl, rfl⟩ hbody noon service).mp hrefused).2
  exact absurd hsent (by decide)

end TitleSieve
