import TitleSieve.Listing.Filter
import TitleSieve.Pass.Logger
import TitleSieve.Rule.Description
import TitleSieve.Service.Address
import TitleSieve.Service.Body
import TitleSieve.Settings.Basic
import TitleSieve.Variants.LazyConverter

/-!
The service. It answers requests one after the other; between two of them only the shared converter,
which loads when it is first needed, the logger, which is set up when the first line is to be
written, and the log of passes stay. What a request comes to is found first and what it leaves
behind is settled afterwards.
-/

namespace TitleSieve

/-- What a request learns from the clock: besides what a pass learns, for how many seconds the
service has been up. -/
structure Moment where
  clock : Clock
  uptime : Json.Value

structure Service where
  settings : Settings
  shared : LazyConverter
  /-- A converter used in place of the shared one. -/
  replacement : Option Converter
  logger : Logger
  /-- What succeeds when the logger is set up. -/
  attempt : LogAttempt
  log : List Text

namespace Service

open Json

/-- What a request comes to: its response, the texts that were submitted to the converter, and the
line that the log must have before the response is given. -/
structure Reply where
  response : Response
  submitted : List Text
  line : Option Text

def Reply.plain (response : Response) : Reply := ⟨response, [], none⟩

def start (settings : Settings) (library : ScriptLibrary) (replacement : Option Converter) :
    Service where
  settings := settings
  shared := .fresh library settings.scripts
  replacement := replacement
  logger := .unset
  attempt := ⟨true, true⟩
  log := []

/-- The service once the shared converter was asked to load before the first request. -/
def warmedUp (service : Service) : Service := { service with shared := service.shared.load.2 }

def converter (service : Service) : Converter :=
  service.replacement.getD service.shared.converter

/-- A failed conversion is reported, every other fault in a pass is not. -/
def passFailure : PassFault → Response
  | .evaluation (.conversion fault) =>
    match fault.report? with
    | some message => .refused 500 message
    | none => .failed
  | _ => .failed

/-- A page without a listing is refused. -/
def pageFailure : Listing.PageFault → Response
  | .missing what => .refused 422 what.message
  | .markup _ => .failed

def decisionValue (decision : Decision Handle) : Value :=
  Response.record [("handle", decision.handle), ("visible", .bool decision.visible)]

def filterAnswer (form : FilterForm) (pass : Pass Handle) : Value :=
  Response.record [("rule", .text form.rule), ("display_rule", .text (Rule.display form.rule)),
    ("results", .list (pass.decisions.map decisionValue)), ("total", .int pass.summary.total),
    ("visible_count", .int pass.summary.visible)]

def logLine (clock : Clock) (rule : Text) (pass : Pass Handle) : Text :=
  (LogEntry.ofPass (some rule) pass clock).line

def filter (converter : Converter) (caching : Bool) (clock : Clock) (form : FilterForm) : Reply :=
  match Pass.run converter caching (some form.rule) (form.entries.map Listing.candidateOf) with
  | (.error fault, ledger) => ⟨passFailure fault, ledger.submitted, none⟩
  | (.ok pass, ledger) =>
    ⟨.answered (filterAnswer form pass), ledger.submitted, some (logLine clock form.rule pass)⟩

def pageAnswer (pass : Pass Handle) (html : Text) : Value :=
  Response.record [("html", .text html), ("total", .int pass.summary.total),
    ("visible_count", .int pass.summary.visible)]

/-- The pass is logged before its decisions are written into the page. -/
def filterPage (converter : Converter) (caching : Bool) (clock : Clock) (form : PageForm) : Reply :=
  match Listing.filter converter caching (some form.rule) form.html with
  | (.error (.page fault), _) => .plain (pageFailure fault)
  | (.error (.pass fault), ledger) => ⟨passFailure fault, ledger.submitted, none⟩
  | (.ok filtered, ledger) =>
    let response :=
      match filtered.written with
      | .error _ => .failed
      | .ok html => .answered (pageAnswer filtered.pass html)
    ⟨response, ledger.submitted, some (logLine clock form.rule filtered.pass)⟩

def termValue : TermDescription → Value
  | .plain alternatives =>
    Response.record [("kind", .string "plain"),
      ("alternatives", .list (alternatives.map .text)), ("pattern", .null), ("valid", .null)]
  | .pattern body valid =>
    Response.record [("kind", .string "regex"), ("alternatives", .null), ("pattern", .text body),
      ("valid", .bool valid)]

def groupValue (group : GroupDescription) : Value :=
  Response.record [("source", .text group.source), ("terms", .list (group.terms.map termValue))]

def descriptionValue (description : RuleDescription) : Value :=
  Response.record [("match_all", .bool description.matchesAll),
    ("groups", .list (description.groups.map groupValue))]

def parse (form : RuleForm) : Response :=
  match Rule.readGiven (some form.rule) with
  | .error _ => .failed
  | .ok rule => .answered (descriptionValue rule.value.describe)

def health (uptime : Value) (service : Service) : Response :=
  .answered (Response.record [("status", .string "ok"),
    ("converter_loaded", .bool service.shared.isLoaded),
    ("variant_a_config", .text service.settings.scripts.nameA),
    ("variant_b_config", .text service.settings.scripts.nameB), ("uptime_seconds", uptime)])

def withForm {α : Type} (read : Option Value → Checked α) (body : Body) (reply : α → Reply) :
    Reply :=
  match body.form read with
  | .error refusal => .plain refusal.response
  | .ok form => reply form

def replyOn (now : Moment) (route : Route) (body : Body) (service : Service) : Reply :=
  match route with
  | .filter =>
    withForm FilterForm.read body (filter service.converter service.settings.caching now.clock)
  | .filterPage =>
    withForm PageForm.read body (filterPage service.converter service.settings.caching now.clock)
  | .parse => withForm RuleForm.read body fun form => .plain (parse form)
  | .health => .plain (service.health now.uptime)

/-- A refusal; one who asks for the head only gets no content. -/
def refusal (method : Text) (status : Nat) (detail : String) : Response :=
  if method = "HEAD".toList then ⟨status, .text []⟩ else .refused status detail

/-- Replies to a request. Methods may be given in any case, and each route has one method. -/
def reply (now : Moment) (request : Request) (service : Service) : Reply :=
  let method := request.method.map Char.toUpper
  match Address.route? request.address with
  | none => .plain (refusal method 404 "Not Found")
  | some route =>
    if method = route.verb.name.toList then service.replyOn now route request.body
    else .plain (refusal method 405 "Method Not Allowed")

def submit (texts : List Text) (service : Service) : Service :=
  { service with
    shared := if service.replacement.isSome then service.shared else service.shared.after texts }

/-- Settles what a reply leaves behind. A line that cannot be logged ends the request. -/
def settle (reply : Reply) (service : Service) : Response × Service :=
  let service := service.submit reply.submitted
  match reply.line with
  | none => (reply.response, service)
  | some line =>
    let (outcome, logger, lines) := service.logger.log service.attempt line
    let service := { service with logger := logger, log := service.log ++ lines }
    match outcome with
    | .error _ => (.failed, service)
    | .ok () => (reply.response, service)

def answer (now : Moment) (request : Request) (service : Service) : Response × Service :=
  service.settle (service.reply now request)

def answerAll : List (Moment × Request) → Service → List Response × Service
  | [], service => ([], service)
  | (now, request) :: rest, service =>
    let (response, service) := service.answer now request
    let (responses, service) := answerAll rest service
    (response :: responses, service)

end Service

end TitleSieve
