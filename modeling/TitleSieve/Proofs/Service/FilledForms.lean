import TitleSieve.Proofs.Service.Histories
import TitleSieve.Proofs.Service.TitleForms

/-!
Requests that bring a filled form. A form for titles lists them with their handles, one for a page
holds its text. The forms are read back from such requests: from the first one if no two handles
are equal, from the second one if the page is not empty.
-/

namespace TitleSieve.Service

open Json Listing

def candidateValue (entry : Text × Text) : Value :=
  Response.record [("handle", .text entry.1), ("title", .text entry.2)]

def titlesRequest (rule : Text) (entries : List (Text × Text)) : Request :=
  ⟨Verb.post.name.toList, Route.filter.path.toList, .data (Response.record
    [("rule", .text rule), ("candidates", .list (entries.map candidateValue))])⟩

def pageRequest (rule html : Text) : Request :=
  ⟨Verb.post.name.toList, Route.filterPage.path.toList,
    .data (Response.record [("rule", .text rule), ("html", .text html)])⟩

theorem forall₂_holdsEntry (entries : List (Text × Text)) :
    List.Forall₂ HoldsEntry (entries.map candidateValue) entries :=
  List.forall₂_map_left_iff.mpr (List.forall₂_same.mpr fun _ _ => ⟨_, rfl, rfl, rfl⟩)

def Request.Brings (request : Request) (form : FilterForm) : Prop :=
  request.LeadsTo .filter ∧ request.body.form FilterForm.read = .ok form

theorem Request.Brings.asks {request : Request} {form : FilterForm} (h : request.Brings form) :
    request.Asks (filterAnswer form) form.rule (form.entries.map candidateOf) :=
  .titles h.1 h.2

theorem titlesRequest_brings (rule : Text) {entries : List (Text × Text)} (h : Distinct entries) :
    (titlesRequest rule entries).Brings ⟨rule, entries⟩ := by
  refine ⟨⟨rfl, rfl⟩, ?_⟩
  let fields : Fields := [("rule".toList, .text rule),
    ("candidates".toList, .list (entries.map candidateValue))]
  have hform : HoldsForm fields rule (entries.map candidateValue) entries :=
    ⟨.inl rfl, .inl rfl, forall₂_holdsEntry entries⟩
  calc
    (titlesRequest rule entries).body.form FilterForm.read
      = (FilterForm.read (some (.object fields))).mapError .issues := rfl
    _ = .ok ⟨rule, entries⟩ := by
      rw [hform.read_of_distinct h]
      rfl

/-- A text that has candidates is not empty. -/
theorem ne_nil_of_candidates {html : Text} {found : List (Candidate Handle)}
    (h : candidates html = .ok found) : html ≠ [] := by
  rintro rfl
  have hmissing : candidates [] = .error (.missing .listing) := rfl
  rw [hmissing] at h
  cases h

theorem pageRequest_asks (rule : Text) {html : Text} {found : List (Candidate Handle)}
    (h : candidates html = .ok found) :
    (pageRequest rule html).Asks (fun pass => pageAnswer pass (pageAfter html pass)) rule
      found := by
  have hroute : (pageRequest rule html).LeadsTo .filterPage := ⟨rfl, rfl⟩
  have hform : (pageRequest rule html).body.form PageForm.read = .ok ⟨rule, html⟩ := by
    cases html with
    | nil => exact absurd rfl (ne_nil_of_candidates h)
    | cons c rest => rfl
  exact .page hroute hform h

/-- Every service that works with this converter gives this answer to the request, at any time and
whatever it has answered before. -/
def Answers (converter : Converter) (request : Request) (answer : Value) : Prop :=
  ∀ settings library replacement service, Serving settings library replacement service →
    service.converter = converter → ∀ now, (service.answer now request).1 = .answered answer

/-- A request for a pass that succeeds is answered with what is made of the pass. -/
theorem Request.Asks.answers {converter : Converter} {request : Request}
    {answer : Pass Handle → Value} {rule : Text} {found : List (Candidate Handle)}
    (h : request.Asks answer rule found) {pass : Pass Handle}
    (hpass : ∀ caching, (Pass.run converter caching (some rule) found).1 = .ok pass) :
    Answers converter request (answer pass) := by
  rintro settings library replacement service hservice rfl now
  rw [hservice.answer_eq h, hpass]

end TitleSieve.Service
