import TitleSieve.Proofs.Listing.DecidedRows
import TitleSieve.Proofs.Pass.Economy
import TitleSieve.Service.Run

/-!
What one request comes to. It asks for a pass over some candidates, or for the health of the
service, or for neither. The reply to a request that asks for a pass depends on the service through
its converter and its settings only, and a line is logged exactly if the request is answered. A
request that asks for neither gets the same reply from every service.
-/

namespace TitleSieve.Service

open Json Listing

def Request.LeadsTo (request : Request) (route : Route) : Prop :=
  Address.route? request.address = some route ∧
    request.method.map Char.toUpper = route.verb.name.toList

instance (request : Request) (route : Route) : Decidable (request.LeadsTo route) :=
  inferInstanceAs (Decidable (_ ∧ _))

/-- The request is one to filter titles or a page. -/
def Request.Filters (request : Request) : Prop :=
  request.LeadsTo .filter ∨ request.LeadsTo .filterPage

instance (request : Request) : Decidable request.Filters := inferInstanceAs (Decidable (_ ∨ _))

theorem Request.LeadsTo.unique {request : Request} {route other : Route}
    (h : request.LeadsTo route) (hother : request.LeadsTo other) : route = other :=
  Option.some.inj (h.1.symm.trans hother.1)

def pageAfter (html : Text) (pass : Pass Handle) : Text :=
  match applyDecisions html (decisionsOf pass.decisions) with
  | .ok written => written
  | .error _ => []

/-- The request brings a valid form for a pass with this rule over these candidates, and it is
answered with what is made of the pass. -/
inductive Request.Asks (request : Request) :
    (Pass Handle → Value) → Text → List (Candidate Handle) → Prop where
  | titles {form : FilterForm} (hroute : request.LeadsTo .filter)
      (hform : request.body.form FilterForm.read = .ok form) :
      request.Asks (filterAnswer form) form.rule (form.entries.map candidateOf)
  | page {form : PageForm} {found : List (Candidate Handle)} (hroute : request.LeadsTo .filterPage)
      (hform : request.body.form PageForm.read = .ok form)
      (hfound : candidates form.html = .ok found) :
      request.Asks (fun pass => pageAnswer pass (pageAfter form.html pass)) form.rule found

def passReply (answer : Pass Handle → Value) (converter : Converter) (caching : Bool)
    (clock : Clock) (rule : Text) (found : List (Candidate Handle)) : Reply :=
  match Pass.run converter caching (some rule) found with
  | (.error fault, ledger) => ⟨passFailure fault, ledger.submitted, none⟩
  | (.ok pass, ledger) =>
    ⟨.answered (answer pass), ledger.submitted, some (logLine clock rule pass)⟩

theorem passFailure_status (fault : PassFault) : (passFailure fault).status = 500 := by
  rcases fault with _ | _ | _ | cause | _
  case evaluation.conversion =>
    simp only [passFailure]
    cases cause.report? <;> rfl
  all_goals rfl

theorem pageFailure_status_ne (fault : PageFault) : (pageFailure fault).status ≠ 200 := by
  cases fault <;> simp [pageFailure, Response.refused, Response.failed]

theorem Refusal.response_status_ne (refusal : Refusal) : refusal.response.status ≠ 200 := by
  cases refusal with
  | issues found =>
    simp only [Refusal.response, Response.ofIssues]
    split <;> simp [Response.failed]
  | unreadable => simp [Refusal.response, Response.refused]

theorem filterPage_eq_passReply {form : PageForm} {found : List (Candidate Handle)}
    (h : candidates form.html = .ok found) (converter : Converter) (caching : Bool)
    (clock : Clock) :
    filterPage converter caching clock form =
      passReply (fun pass => pageAnswer pass (pageAfter form.html pass)) converter caching clock
        form.rule found := by
  unfold filterPage passReply
  rcases hrun : Pass.run converter caching (some form.rule) found with ⟨fault | pass, ledger⟩
  · simp only [Listing.filter, h, hrun]
  · obtain ⟨page, before, -, -, -, hwritten⟩ := exists_written h
    obtain ⟨decided, -, happly, -⟩ := hwritten (decisionsOf pass.decisions)
    simp only [Listing.filter, h, hrun, happly, pageAfter]

variable {request : Request} {route : Route} {answer : Pass Handle → Value} {rule : Text}
  {found : List (Candidate Handle)}

theorem Request.LeadsTo.reply_eq (h : request.LeadsTo route) (now : Moment) (service : Service) :
    service.reply now request = service.replyOn now route request.body := by
  unfold reply
  simp only [h.1, h.2, if_true]

theorem Request.Asks.reply_eq (h : request.Asks answer rule found) (now : Moment)
    (service : Service) :
    service.reply now request =
      passReply answer service.converter service.settings.caching now.clock rule found := by
  cases h with
  | titles hroute hform =>
    rw [hroute.reply_eq]
    simp only [replyOn, withForm, hform]
    rfl
  | page hroute hform hfound =>
    rw [hroute.reply_eq]
    simp only [replyOn, withForm, hform, filterPage_eq_passReply hfound]

/-- The same response comes from every service at any time, and nothing else happens. A request to
filter is not answered this way. -/
def Request.Idles (request : Request) : Prop :=
  ∃ response, (∀ now service, reply now request service = .plain response) ∧
    (request.Filters → response.status ≠ 200)

theorem Request.LeadsTo.idles (h : request.LeadsTo route) (response : Response)
    (hreply : ∀ now service, replyOn now route request.body service = .plain response)
    (hstatus : request.Filters → response.status ≠ 200) : request.Idles :=
  ⟨response, fun now service => (h.reply_eq now service).trans (hreply now service), hstatus⟩

theorem idles_of_lost (h : ∀ route, ¬ request.LeadsTo route) : request.Idles := by
  have hfilters : ¬ request.Filters := fun hfilters => hfilters.elim (h _) (h _)
  cases hroute : Address.route? request.address with
  | none =>
    refine ⟨refusal (request.method.map Char.toUpper) 404 "Not Found", fun now service => ?_,
      fun hfilter => absurd hfilter hfilters⟩
    simp only [reply, hroute]
  | some route =>
    have hmethod : request.method.map Char.toUpper ≠ route.verb.name.toList :=
      fun hmethod => h route ⟨hroute, hmethod⟩
    refine ⟨refusal (request.method.map Char.toUpper) 405 "Method Not Allowed",
      fun now service => ?_, fun hfilter => absurd hfilter hfilters⟩
    simp only [reply, hroute, if_neg hmethod]

theorem idles_of_parse (h : request.LeadsTo .parse) : request.Idles := by
  have hfilters : ¬ request.Filters := by
    rintro (hother | hother) <;> cases h.unique hother
  cases hform : request.body.form RuleForm.read with
  | error refusal =>
    refine h.idles refusal.response (fun now service => ?_)
      fun hfilter => absurd hfilter hfilters
    simp only [replyOn, withForm, hform]
  | ok form =>
    refine h.idles (Service.parse form) (fun now service => ?_)
      fun hfilter => absurd hfilter hfilters
    simp only [replyOn, withForm, hform]

theorem asks_or_idles_of_filter (h : request.LeadsTo .filter) :
    (∃ answer rule found, request.Asks answer rule found) ∨ request.Idles := by
  cases hform : request.body.form FilterForm.read with
  | ok form => exact .inl ⟨_, _, _, .titles h hform⟩
  | error refusal =>
    refine .inr (h.idles refusal.response (fun now service => ?_) fun _ =>
      refusal.response_status_ne)
    simp only [replyOn, withForm, hform]

theorem asks_or_idles_of_filterPage (h : request.LeadsTo .filterPage) :
    (∃ answer rule found, request.Asks answer rule found) ∨ request.Idles := by
  cases hform : request.body.form PageForm.read with
  | error refusal =>
    refine .inr (h.idles refusal.response (fun now service => ?_) fun _ =>
      refusal.response_status_ne)
    simp only [replyOn, withForm, hform]
  | ok form =>
    cases hfound : candidates form.html with
    | ok found => exact .inl ⟨_, _, _, .page h hform hfound⟩
    | error fault =>
      refine .inr (h.idles (pageFailure fault) (fun now service => ?_) fun _ =>
        pageFailure_status_ne fault)
      simp only [replyOn, withForm, hform, filterPage, Listing.filter, hfound]

theorem Request.reply_cases (request : Request) :
    request.LeadsTo .health ∨ (∃ answer rule found, request.Asks answer rule found) ∨
      request.Idles := by
  by_cases hlost : ∀ route, ¬ request.LeadsTo route
  · exact .inr (.inr (idles_of_lost hlost))
  · push Not at hlost
    obtain ⟨route, hroute⟩ := hlost
    cases route with
    | health => exact .inl hroute
    | parse => exact .inr (.inr (idles_of_parse hroute))
    | filter => exact .inr (asks_or_idles_of_filter hroute)
    | filterPage => exact .inr (asks_or_idles_of_filterPage hroute)

/-- The candidates of a request are texts under texts. -/
theorem Request.Asks.unhashable?_eq_none (h : request.Asks answer rule found)
    {candidate : Candidate Handle} (hmem : candidate ∈ found) :
    HandleKind.unhashable? candidate.handle = none := by
  have hentries : ∀ entries : List (Text × Text), candidate ∈ entries.map candidateOf →
      HandleKind.unhashable? candidate.handle = none := by
    intro entries hentries
    obtain ⟨entry, -, rfl⟩ := List.mem_map.mp hentries
    rfl
  cases h with
  | titles => exact hentries _ hmem
  | page _ _ hfound =>
    obtain ⟨page, before, -, -, rfl⟩ := candidates_eq_ok_iff.mp hfound
    exact hentries _ hmem

/-- What a pass comes to does not depend on the time, and it leaves a line if it is answered. -/
theorem passReply_cases (answer : Pass Handle → Value) (converter : Converter) (caching : Bool)
    (rule : Text) (found : List (Candidate Handle)) :
    ∃ response submitted,
      (response.status = 200 ∧ ∃ line : Clock → Text, ∀ clock,
        passReply answer converter caching clock rule found =
          ⟨response, submitted, some (line clock)⟩) ∨
      (response.status = 500 ∧ ∀ clock,
        passReply answer converter caching clock rule found = ⟨response, submitted, none⟩) := by
  unfold passReply
  rcases Pass.run converter caching (some rule) found with ⟨fault | pass, ledger⟩
  · exact ⟨_, ledger.submitted, .inr ⟨passFailure_status fault, fun clock => rfl⟩⟩
  · exact ⟨.answered (answer pass), ledger.submitted,
      .inl ⟨rfl, fun clock => logLine clock rule pass, fun clock => rfl⟩⟩

/-- Of a service only its converter and its settings count, except for a request for its health. -/
theorem reply_alike {service other : Service} (hsettings : service.settings = other.settings)
    (hconverter : service.converter = other.converter) (hhealth : ¬ request.LeadsTo .health)
    (now : Moment) : service.reply now request = other.reply now request := by
  obtain h | ⟨answer, rule, found, hasks⟩ | ⟨response, hreply, -⟩ := request.reply_cases
  · exact absurd h hhealth
  · rw [hasks.reply_eq, hasks.reply_eq, hsettings, hconverter]
  · rw [hreply, hreply]

end TitleSieve.Service
