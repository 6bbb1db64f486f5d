import TitleSieve.Proofs.Pass.Logging
import TitleSieve.Proofs.Service.Replies
import TitleSieve.Proofs.Variants.Loading

/-!
Requests answered one after the other. What the service keeps between two of them is its settings,
a converter that does with texts what it has always done, and a logger that writes. So every request
is answered as it would be on its own, and the log grows by the lines that the requests leave.
-/

namespace TitleSieve.Service

open Json

variable {settings : Settings} {library : ScriptLibrary} {replacement : Option Converter}
  {service first : Service}

structure Serving (settings : Settings) (library : ScriptLibrary) (replacement : Option Converter)
    (service : Service) : Prop where
  settings_eq : service.settings = settings
  replacement_eq : service.replacement = replacement
  converter_eq : service.shared.converter = (LazyConverter.fresh library settings.scripts).converter
  attempt_eq : service.attempt = ⟨true, true⟩
  logger_ne : service.logger ≠ .registered

/-- A process before the first request, once the converter was asked to load or not. -/
def launch (hook : Bool) (settings : Settings) (library : ScriptLibrary)
    (replacement : Option Converter) : Service :=
  if hook then (start settings library replacement).warmedUp
  else start settings library replacement

theorem logger_launch (hook : Bool) (settings : Settings) (library : ScriptLibrary)
    (replacement : Option Converter) :
    (launch hook settings library replacement).logger = .unset := by
  cases hook <;> rfl

theorem serving_launch (hook : Bool) (settings : Settings) (library : ScriptLibrary)
    (replacement : Option Converter) :
    Serving settings library replacement (launch hook settings library replacement) := by
  have hlogger : (launch hook settings library replacement).logger ≠ .registered := by
    rw [logger_launch]
    decide
  cases hook with
  | false => exact ⟨rfl, rfl, rfl, rfl, hlogger⟩
  | true => exact ⟨rfl, rfl, LazyConverter.converter_load _, rfl, hlogger⟩

theorem serving_start (settings : Settings) (library : ScriptLibrary)
    (replacement : Option Converter) :
    Serving settings library replacement (start settings library replacement) :=
  serving_launch false settings library replacement

theorem Serving.settle_eq (h : Serving settings library replacement service) (reply : Reply) :
    service.settle reply = (reply.response,
      { service.submit reply.submitted with
        logger := if reply.line.isSome then .writing else service.logger
        log := service.log ++ reply.line.toList }) := by
  unfold settle
  cases hline : reply.line with
  | none => simp [submit]
  | some line =>
    have hlog : (service.submit reply.submitted).logger.log
        (service.submit reply.submitted).attempt line = (.ok (), .writing, [line]) := by
      have hattempt : (service.submit reply.submitted).attempt = ⟨true, true⟩ := h.attempt_eq
      rw [hattempt]
      exact Logger.log_eq_of_writes h.logger_ne line
    simp only [hlog]
    rfl

theorem Serving.answer_fst (h : Serving settings library replacement service) (now : Moment)
    (request : Request) :
    (service.answer now request).1 = (service.reply now request).response := by
  rw [Service.answer, h.settle_eq]

/-- A request that asks for a pass is answered with what is made of the pass, or with its fault. -/
theorem Serving.answer_eq (h : Serving settings library replacement service) {request : Request}
    {answer : Pass Handle → Value} {rule : Text} {found : List (Candidate Handle)}
    (hasks : request.Asks answer rule found) (now : Moment) :
    (service.answer now request).1 =
      match (Pass.run service.converter service.settings.caching (some rule) found).1 with
      | .error fault => passFailure fault
      | .ok pass => .answered (answer pass) := by
  rw [h.answer_fst, hasks.reply_eq, passReply]
  rcases Pass.run service.converter service.settings.caching (some rule) found with ⟨_ | _, _⟩ <;>
    rfl

theorem Serving.answer (h : Serving settings library replacement service) (now : Moment)
    (request : Request) :
    Serving settings library replacement (service.answer now request).2 := by
  unfold Service.answer
  rw [h.settle_eq]
  refine ⟨h.settings_eq, h.replacement_eq, ?_, h.attempt_eq, ?_⟩
  · rw [← h.converter_eq]
    simp only [submit]
    split
    · rfl
    · exact LazyConverter.converter_after ..
  · simp only
    split
    · decide
    · exact h.logger_ne

/-- All that a process can become converts alike. -/
theorem Serving.converter_congr (h : Serving settings library replacement service)
    (hfirst : Serving settings library replacement first) :
    service.converter = first.converter := by
  unfold converter
  rw [h.replacement_eq, hfirst.replacement_eq, h.converter_eq, hfirst.converter_eq]

theorem Serving.reply_eq (h : Serving settings library replacement service)
    (hfirst : Serving settings library replacement first) {request : Request}
    (hhealth : ¬ request.LeadsTo .health) (now : Moment) :
    service.reply now request = first.reply now request :=
  reply_alike (h.settings_eq.trans hfirst.settings_eq.symm) (h.converter_congr hfirst) hhealth now

theorem Serving.line_eq (h : Serving settings library replacement service)
    (hfirst : Serving settings library replacement first) (now : Moment) (request : Request) :
    (service.reply now request).line = (first.reply now request).line := by
  by_cases hhealth : request.LeadsTo .health
  · rw [hhealth.reply_eq, hhealth.reply_eq]
    rfl
  · rw [h.reply_eq hfirst hhealth]

theorem Serving.answerAll (h : Serving settings library replacement service)
    (asked : List (Moment × Request)) :
    Serving settings library replacement (service.answerAll asked).2 := by
  induction asked generalizing service with
  | nil => exact h
  | cons entry rest ih => exact ih (h.answer entry.1 entry.2)

/-- What every service of the process answers to a request, it answers in the course of requests. -/
theorem Serving.forall₂_answerAll {answered : Moment × Request → Response → Prop}
    (h : Serving settings library replacement service)
    (hanswer : ∀ service, Serving settings library replacement service →
      ∀ entry, answered entry (service.answer entry.1 entry.2).1)
    (asked : List (Moment × Request)) :
    List.Forall₂ answered asked (service.answerAll asked).1 := by
  induction asked generalizing service with
  | nil => exact .nil
  | cons entry rest ih => exact .cons (hanswer service h entry) (ih (h.answer entry.1 entry.2))

/-- A request to filter one title by the rule `a`. -/
def oneTitle (title : Text) : Request :=
  ⟨"post".toList, "/filter/".toList, .data (.object [("rule".toList, .text ['a']),
    ("candidates".toList, .list [.object [("handle".toList, .text []),
      ("title".toList, .text title)]])])⟩

def noon : Moment := ⟨⟨"12:00".toList, .int 1⟩, .int 0⟩

end TitleSieve.Service
