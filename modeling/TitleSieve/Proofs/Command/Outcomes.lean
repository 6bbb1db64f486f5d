import TitleSieve.Command.Process
import TitleSieve.Proofs.Command.FileWords
import TitleSieve.Proofs.Command.LineRuns
import TitleSieve.Proofs.Listing.DecidedRows

/-!
How runs of the command end. A run prints what a pass over all the titles gives and has a line for
the log, or else it prints nothing and has no line: a failed conversion and a missing listing are
reported with an exit of their own, and whatever else goes wrong is raised before a pass has
succeeded. A run that filters lines prints the lines that the rule keeps, or all of them with a mark
at those that it hides; what it writes to the standard error, notices included, is the same either
way. As a process the command prints nothing either if the level of its notices is unknown or the
log cannot be opened.
-/

namespace TitleSieve.Command

open Listing Pass

/-- The conversions that a command line with or without the flag that switches the variants off
loads. -/
def World.loadingFor (world : World) (noVariants : Bool) : Option ScriptChoice :=
  if noVariants then none else world.loading

/-- In this world the words ask for this text to be filtered by the rule with this converter, which
loads these conversions, as a page or line by line, and for hidden titles to be printed or not. -/
def AsksFor (converter : Converter) (loading : Option ScriptChoice) (raw input : Text)
    (html showHidden : Bool) (world : World) (words : List Text) : Prop :=
  ∃ options, optionsOf world (.ofCommandLine words) = .ok options ∧
    Text.Utf8.decode (options.input.getD world.standardInput) = .ok input ∧
    converterOf world options = converter ∧ loadingOf world options = loading ∧
    options.rule = raw ∧ options.html = html ∧ options.showHidden = showHidden

def entriesOf (html : Bool) (input : Text) : Except PageFault (List (Text × Text)) :=
  if html then titles (Text.unifyLineFeeds input) else .ok (textTitles input)

def PassEnds (converter : Converter) (raw input : Text) (html : Bool)
    (outcome : Except PassFault (Pass Handle)) : Prop :=
  ∃ entries, entriesOf html input = .ok entries ∧
    (Pass.run converter true (some raw) (entries.map candidateOf)).1 = outcome

/-- What a run that fails leaves behind: nothing is printed, and its exit tells whether there is no
listing or a title cannot be converted. -/
def Reports (converter : Converter) (raw input : Text) (html : Bool) (output : Output) : Prop :=
  output.out = [] ∧
    (output.exit = 2 ∧ (∃ what, entriesOf html input = .error (.missing what)) ∨
      output.exit = 1 ∧ ∃ cause message, cause.report? = some message ∧
        PassEnds converter raw input html (.error (.evaluation (.conversion cause))))

/-- The rule can be read, and `met` tells of each title what becomes of it alone. -/
structure Judges (converter : Converter) (raw : Text) (rule : Warned Rule) (met : Text → Bool)
    (titles : List Text) : Prop where
  read : Rule.read raw = .ok rule
  alone : ∀ title ∈ titles, rule.value.alone converter title = .ok (met title)

/-- The lines for titles: all of them, with a hyphen before those that are not met, or only those
that are met. -/
def linesFor (showHidden : Bool) (met : Text → Bool) (titles : List Text) : List Text :=
  if showHidden then titles.map fun title => if met title then title else '-' :: ' ' :: title
  else titles.filter met

def countsOf (rule : Rule) (met : Text → Bool) (titles : List Text) : Summary where
  total := titles.length
  visible := titles.countP met
  groupCount := rule.groupCount
  fallbackCount := rule.fallbackCount

/-- The notices of a pass over titles: that patterns are taken as literals, that the conversions
have been loaded, if there is a title to be tried, and the counts. -/
def noticesFor (loading : Option ScriptChoice) (rule : Warned Rule) (met : Text → Bool)
    (titles : List Text) : List Notice :=
  rule.warnings.map Warning.notice ++
    (if rule.value.matchesAll || titles.isEmpty then []
      else loading.toList.map ScriptChoice.notice) ++
    [(countsOf rule.value met titles).notice]

variable {converter : Converter} {loading : Option ScriptChoice} {raw input : Text}
  {html showHidden : Bool} {world : World} {words : List Text} {rule : Warned Rule}
  {met : Text → Bool} {entries : List (Text × Text)} {decisions : List (Decision Handle)}

/-- A command line whose steps give the rule asks for what the steps say. -/
theorem FiltersInput.asksFor {source : Option Text} {noVariants : Bool} {steps : List Step}
    {bytes : List Nat} (hsteps : FiltersInput raw source html showHidden noVariants steps)
    (hraw : IsPlain raw) (hoffers : world.Offers bytes source)
    (hdecode : Text.Utf8.decode bytes = .ok input) :
    AsksFor (world.converterFor noVariants) (world.loadingFor noVariants) raw input html showHidden
      world (steps.flatMap Step.words) := by
  refine ⟨_, hsteps.optionsOf_eq hraw hoffers, ?_, rfl, rfl, rfl, rfl, rfl⟩
  cases source with
  | some name => exact hdecode
  | none => exact (congrArg Text.Utf8.decode hoffers).trans hdecode

theorem textTitles_unifyLineFeeds (t : Text) :
    textTitles (Text.unifyLineFeeds t) = textTitles t := by
  rw [textTitles, Text.lines_unifyLineFeeds, textTitles]

/-- The ways a run can end: with the titles, with the pass, or with what is written of the pass. -/
inductive Ends (converter : Converter) (loading : Option ScriptChoice) (raw input : Text)
    (html showHidden : Bool) (world : World) : Except Crash Output → Prop where
  | unlisted {fault : PageFault} (hfault : entriesOf html input = .error fault) :
    Ends converter loading raw input html showHidden world (pageFailure fault)
  | stopped {entries : List (Text × Text)} {fault : PassFault}
    (hentries : entriesOf html input = .ok entries)
    (hfault : (Pass.run converter true (some raw) (entries.map candidateOf)).1 = .error fault) :
    Ends converter loading raw input html showHidden world
      ((passFailure fault).map (.after (world.told converter loading raw entries)))
  | written {entries : List (Text × Text)} {pass : Pass Handle} {out : Text}
    (hentries : entriesOf html input = .ok entries)
    (hpass : (Pass.run converter true (some raw) (entries.map candidateOf)).1 = .ok pass)
    (hout : html = false → out = printed showHidden (textTitles input) pass.decisions) :
    Ends converter loading raw input html showHidden world
      (.ok ⟨0, out, world.told converter loading raw entries ++ summaryLine pass.summary,
        some (LogEntry.ofPass (some raw) pass world.clock).line⟩)

/-- The decisions of a pass over the titles of a page can be written back. -/
theorem exists_applyDecisions {html : Text} (h : titles html = .ok entries)
    (decisions : Decisions) : ∃ written, applyDecisions html decisions = .ok written := by
  have hfound : candidates html = .ok (entries.map candidateOf) := by
    rw [candidates, h]
    rfl
  obtain ⟨_, _, -, -, -, hwritten⟩ := exists_written hfound
  obtain ⟨decided, -, happly, -⟩ := hwritten decisions
  exact ⟨decided.write, happly⟩

theorem ends_filterText (world : World) (options : Options) (input : Text) :
    Ends (converterOf world options) (loadingOf world options) options.rule input false
      options.showHidden world (filterText world options (Text.unifyLineFeeds input)) := by
  have hentries : entriesOf false input = .ok (textTitles input) := rfl
  rw [filterText, textTitles_unifyLineFeeds]
  cases hrun : (Pass.run (converterOf world options) true (some options.rule)
      ((textTitles input).map candidateOf)).1 with
  | error fault =>
    rw [filterTitles_of_error hrun]
    exact .stopped hentries hrun
  | ok pass =>
    rw [filterTitles_of_ok hrun rfl]
    exact .written hentries hrun fun _ => rfl

theorem ends_filterPage (world : World) (options : Options) (input : Text) :
    Ends (converterOf world options) (loadingOf world options) options.rule input true
      options.showHidden world (filterPage world options (Text.unifyLineFeeds input)) := by
  unfold filterPage
  cases htitles : titles (Text.unifyLineFeeds input) with
  | error fault => exact .unlisted htitles
  | ok entries =>
    have hentries : entriesOf true input = .ok entries := htitles
    cases hrun : (Pass.run (converterOf world options) true (some options.rule)
        (entries.map candidateOf)).1 with
    | error fault =>
      simp only [filterTitles_of_error hrun]
      exact .stopped hentries hrun
    | ok pass =>
      -- The page has been read once already, so it cannot fail to be read when it is written.
      obtain ⟨page, hpage⟩ := exists_applyDecisions htitles (decisionsOf pass.decisions)
      simp only
      rw [filterTitles_of_ok hrun (by rw [hpage])]
      exact .written hentries hrun fun h => absurd h.symm Bool.false_ne_true

theorem AsksFor.ends (h : AsksFor converter loading raw input html showHidden world words) :
    Ends converter loading raw input html showHidden world (run world words) := by
  obtain ⟨options, hoptions, hdecode, rfl, rfl, rfl, rfl, rfl⟩ := h
  simp only [run, hoptions, filter, hdecode]
  cases options.html with
  | false => exact ends_filterText world options input
  | true => exact ends_filterPage world options input

/-- What stands on the standard error: notices, and a text behind them. -/
structure Errors where
  notices : List Notice
  rest : Text

def Errors.write (telling : Telling) (errors : Errors) : Text :=
  telling.write errors.notices ++ errors.rest

def Tells (met : Text → Bool) (entry : Text × Text) (decision : Decision Handle) : Prop :=
  decision.visible = met entry.2

theorem printed_eq_closeLines (h : List.Forall₂ (Tells met) entries decisions) :
    printed showHidden entries decisions =
      Text.closeLines (linesFor showHidden met (entries.map Prod.snd)) := by
  induction h with
  | nil => cases showHidden <;> rfl
  | @cons entry decision entries decisions hvisible _ ih =>
    rw [printed, ih, hvisible, List.map_cons]
    cases showHidden <;> cases hmet : met entry.2 <;> simp [linesFor, Text.closeLines, hmet]

theorem countP_visible_eq_countP_met (h : List.Forall₂ (Tells met) entries decisions) :
    decisions.countP Decision.visible = (entries.map Prod.snd).countP met := by
  induction h with
  | nil => rfl
  | cons hvisible _ ih => rw [List.map_cons, List.countP_cons, List.countP_cons, ih, hvisible]

/-- Where each title is judged alone, a pass over titles with handles that differ succeeds, and its
decisions tell what is met. -/
theorem Judges.exists_pass (hdistinct : Distinct entries)
    (h : Judges converter raw rule met (entries.map Prod.snd)) :
    ∃ decisions, List.Forall₂ (Tells met) entries decisions ∧
      (Pass.run converter true (some raw) (entries.map candidateOf)).1 =
        .ok ⟨decisions, countsOf rule.value met (entries.map Prod.snd)⟩ := by
  obtain ⟨hread, halone⟩ := h
  have hjudged : ∀ entry ∈ entries, rule.value.alone converter entry.2 = .ok (met entry.2) :=
    fun entry hentry => halone entry.2 (List.mem_map_of_mem hentry)
  have hfaultless : Faultless converter rule.value (entries.map candidateOf) :=
    faultless_of_distinct hdistinct fun entry hentry => ⟨_, hjudged entry hentry⟩
  obtain ⟨⟨decisions, summary⟩, hpass⟩ := exists_ofRule_eq_ok hfaultless true
  obtain ⟨-, hdecides, htallied⟩ := (ofRule_eq_ok_iff ..).mp hpass
  have htells : List.Forall₂ (Tells met) entries decisions := by
    have hboth := (List.forall₂_and_left _ _).mpr ⟨hjudged, List.forall₂_map_left_iff.mp hdecides⟩
    exact hboth.imp fun entry decision h => Except.ok.inj (h.2.2.symm.trans h.1)
  refine ⟨decisions, htells, run_eq_ok_iff.mpr ⟨_, hread, ?_⟩⟩
  have hlength : decisions.length = (entries.map Prod.snd).length := by
    rw [List.length_map, htells.length_eq]
  rw [hpass, (tallied_iff summary hdecides.length_eq.symm).mp htallied, summarize, countsOf,
    hlength, countP_visible_eq_countP_met htells]

theorem tries_entries_iff (hread : Rule.read raw = .ok rule) :
    Tries (some raw) (entries.map candidateOf) ↔
      (rule.value.matchesAll || (entries.map Prod.snd).isEmpty) = false := by
  rw [Bool.or_eq_false_iff, List.isEmpty_eq_false_iff, ne_eq, List.map_eq_nil_iff]
  refine and_congr ⟨?_, fun hsome => ⟨rule, hread, hsome⟩⟩ (not_congr List.map_eq_nil_iff)
  rintro ⟨other, hother, hsome⟩
  obtain rfl : rule = other := Except.ok.inj (hread.symm.trans hother)
  exact hsome

/-- What is written of the notices of a pass over titles that are judged. -/
theorem Judges.told_eq (hdistinct : Distinct entries)
    (h : Judges converter raw rule met (entries.map Prod.snd)) (world : World) :
    world.told converter loading raw entries =
      world.tell (noticesFor loading rule met (entries.map Prod.snd)) := by
  obtain ⟨decisions, -, hpass⟩ := h.exists_pass hdistinct
  have hhashable : ∀ candidate ∈ entries.map candidateOf,
      HandleKind.unhashable? candidate.handle = none := by
    intro candidate hmem
    obtain ⟨entry, -, rfl⟩ := List.mem_map.mp hmem
    rfl
  have hsubmitted :
      (Pass.run converter world.caching (some raw) (entries.map candidateOf)).2.submitted = [] ↔
        ¬ Tries (some raw) (entries.map candidateOf) :=
    submitted_run_eq_nil_iff hhashable converter world.caching
  rw [tries_entries_iff h.read, Bool.not_eq_false, ← List.isEmpty_iff, ← Bool.eq_iff_iff]
    at hsubmitted
  have hgiven : Rule.readGiven (some raw) = .ok rule := h.read
  simp only [World.told, noticesOf, Pass.notices, noticesFor, hgiven, hsubmitted, run_fst_eq, hpass]

/-- What a run that filters lines prints and logs where each of them is judged. -/
theorem AsksFor.run_eq (h : AsksFor converter loading raw input false showHidden world words)
    (hjudges : Judges converter raw rule met (titlesIn input)) :
    ∃ line, run world words = .ok
      ⟨0, Text.closeLines (linesFor showHidden met (titlesIn input)),
        world.tell (noticesFor loading rule met (titlesIn input)) ++
          summaryLine (countsOf rule.value met (titlesIn input)), some line⟩ := by
  rw [← textTitles_snd] at hjudges ⊢
  have hdistinct := distinct_textTitles input
  obtain ⟨decisions, htells, hdecided⟩ := hjudges.exists_pass hdistinct
  generalize hrun : run world words = outcome
  cases hrun ▸ h.ends with
  | unlisted hfault => cases hfault
  | stopped hentries hfault =>
    obtain rfl := Except.ok.inj hentries
    cases hfault.symm.trans hdecided
  | written hentries hpass hout =>
    obtain rfl := Except.ok.inj hentries
    obtain rfl := Except.ok.inj (hpass.symm.trans hdecided)
    rw [hout rfl, printed_eq_closeLines htells, hjudges.told_eq hdistinct]
    exact ⟨_, rfl⟩

end TitleSieve.Command
