import TitleSieve.Proofs.Rule.Display
import TitleSieve.Proofs.Service.FilledForms

/-!
Rules that come back. An answer to a list of titles shows the rule that was sent with it. Sent again
in place of that rule, the rule as it is shown is read the same, and the same titles get the same
answer from the service, whatever it has answered in between; only the rule that is repeated as it
was given is now the one that was shown.
-/

namespace TitleSieve.Service

open Json

variable {settings : Settings} {library : ScriptLibrary} {replacement : Option Converter}
  {service later : Service}

/-- An answer tells the rule as it was given in one field, which nothing else depends on. -/
theorem filterAnswer_display (raw : Text) (entries : List (Text × Text)) (pass : Pass Handle)
    {name : String} (h : name ≠ "rule") :
    (filterAnswer ⟨Rule.display raw, entries⟩ pass).field? name =
      (filterAnswer ⟨raw, entries⟩ pass).field? name := by
  have hname : (name.toList == "rule".toList) = false := by
    rw [beq_eq_false_iff_ne]
    exact fun heq => h (String.toList_inj.mp heq)
  simp only [filterAnswer, Rule.display_display, Response.record, Value.field?, Fields.get?,
    List.map_cons, List.lookup_cons, hname]

/-- A rule means the same as it is shown. The text that is shown is read as the same rule with the
same warnings, or refused for the same reason; it is shown as it is, and has no narrow semicolon in
it. If a request to filter titles by the rule is answered, then every request to filter the same
titles by the rule as it is shown is answered from the same pass, by this process and by every other
one with its settings, at any time: the two answers have the same fields but for the rule as it was
given. -/
theorem display_keeps_meaning (raw : Text) :
    Rule.read (Rule.display raw) = Rule.read raw ∧
      Rule.display (Rule.display raw) = Rule.display raw ∧ ';' ∉ Rule.display raw ∧
      ∀ settings library replacement service, Serving settings library replacement service →
        ∀ entries request now, request.Brings ⟨raw, entries⟩ →
          (service.answer now request).1.status = 200 →
        ∀ later, Serving settings library replacement later →
        ∀ again now', again.Brings ⟨Rule.display raw, entries⟩ →
          ∃ pass, (service.answer now request).1 = .answered (filterAnswer ⟨raw, entries⟩ pass) ∧
            (later.answer now' again).1 =
              .answered (filterAnswer ⟨Rule.display raw, entries⟩ pass) ∧
            (filterAnswer ⟨raw, entries⟩ pass).field? "display_rule" =
              some (.text (Rule.display raw)) ∧
            ∀ name, name ≠ "rule" →
              (filterAnswer ⟨Rule.display raw, entries⟩ pass).field? name =
                (filterAnswer ⟨raw, entries⟩ pass).field? name := by
  refine ⟨Rule.read_display raw, Rule.display_display raw, Rule.not_mem_display raw, ?_⟩
  intro settings library replacement service hservice entries request now hrequest hstatus later
    hlater again now' hagain
  have hfirst := hservice.answer_eq hrequest.asks now
  have hsecond := hlater.answer_eq hagain.asks now'
  rw [Pass.run_display, hlater.converter_congr hservice, hlater.settings_eq,
    ← hservice.settings_eq] at hsecond
  cases hrun : (Pass.run service.converter service.settings.caching (some raw)
      (entries.map Listing.candidateOf)).1 with
  | error fault =>
    rw [hrun] at hfirst
    rw [hfirst, passFailure_status] at hstatus
    cases hstatus
  | ok pass =>
    rw [hrun] at hfirst hsecond
    exact ⟨pass, hfirst, hsecond, rfl, fun name => filterAnswer_display raw entries pass⟩

/-- Of two titles one meets both groups of the rule; the rule comes back and is sent again. -/
theorem display_keeps_meaning_of_two :
    let service := start .default ⟨fun _ => none⟩ (some .identity)
    let entries := [(['1'], ['x', 'a']), (['2'], ['a'])]
    let request := titlesRequest "x;A".toList entries
    let again := titlesRequest "x；A".toList entries
    Rule.display "x;A".toList = "x；A".toList ∧ request.Brings ⟨"x;A".toList, entries⟩ ∧
      again.Brings ⟨"x；A".toList, entries⟩ ∧ (service.answer noon request).1.status = 200 ∧
      ∃ pass, (service.answer noon request).1 =
          .answered (filterAnswer ⟨"x;A".toList, entries⟩ pass) ∧
        ((service.answer noon request).2.answer noon again).1 =
          .answered (filterAnswer ⟨"x；A".toList, entries⟩ pass) ∧
        (filterAnswer ⟨"x；A".toList, entries⟩ pass).field? "results" =
          (filterAnswer ⟨"x;A".toList, entries⟩ pass).field? "results" := by
  intro service entries request again
  have hshown : Rule.display "x;A".toList = "x；A".toList := by decide
  have hdistinct : Listing.Distinct entries := by decide
  have hrequest : request.Brings ⟨"x;A".toList, entries⟩ := titlesRequest_brings _ hdistinct
  have hagain : again.Brings ⟨"x；A".toList, entries⟩ := titlesRequest_brings _ hdistinct
  have hservice : Serving .default ⟨fun _ => none⟩ (some .identity) service := serving_start ..
  have hstatus : (service.answer noon request).1.status = 200 := rfl
  obtain ⟨-, -, -, hmeaning⟩ := display_keeps_meaning "x;A".toList
  rw [hshown] at hmeaning
  obtain ⟨pass, hfirst, hsecond, -, hsame⟩ := hmeaning _ _ _ service hservice entries request noon
    hrequest hstatus _ (hservice.answer noon request) again noon hagain
  exact ⟨hshown, hrequest, hagain, hstatus, pass, hfirst, hsecond, hsame "results" (by decide)⟩

end TitleSieve.Service
