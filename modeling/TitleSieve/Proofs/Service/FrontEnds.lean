import TitleSieve.Proofs.Command.FileRuns
import TitleSieve.Proofs.Listing.TitleLines
import TitleSieve.Proofs.Rule.Fragments
import TitleSieve.Proofs.Service.FilledForms

/-!
The front ends agree. One pass over the titles of a page stands behind all of them: the service
answers a list of the titles and the page itself by it, the command prints the page as it decides
it, and of the titles, written one to a line, the command prints those whose rows it shows. The
handles, which are numbers of rows in one case and numbers of lines in the other, play no part.
-/

namespace TitleSieve

open Listing Markup

/-- Where every title of some entries can be tried, and no two handles are equal, there is a pass
over them, and it is the same whether forms are kept or not. -/
theorem Pass.exists_run_eq_ok {converter : Converter} {raw : Text} {rule : Warned Rule}
    {entries : List (Text × Text)} (hdistinct : Distinct entries) (hrule : Rule.read raw = .ok rule)
    (htrials : ∀ entry ∈ entries, ∃ visible, rule.value.alone converter entry.2 = .ok visible) :
    ∃ pass, ∀ caching,
      (Pass.run converter caching (some raw) (entries.map candidateOf)).1 = .ok pass := by
  have hfaultless := Command.faultless_of_distinct hdistinct htrials
  obtain ⟨pass, hpass⟩ := Pass.exists_ofRule_eq_ok hfaultless true
  obtain ⟨outcome, asked, -, hall⟩ :=
    Pass.run_asks converter (some raw) (entries.map candidateOf)
  have hrun : (Pass.run converter true (some raw) (entries.map candidateOf)).1 = .ok pass :=
    Pass.run_eq_ok_iff.mpr ⟨rule, hrule, hpass⟩
  refine ⟨pass, fun caching => ?_⟩
  rw [hall caching, ← hrun, hall true]

/-- The front ends agree on every page with a listing, every rule that does not begin with a hyphen
and every converter with which the titles can be tried. One pass decides the rows: its decisions
have the handles of the titles and are what the rows with a title show in the page as it is written
back. With these decisions and the counts of this pass the service answers the list of the titles,
and with this page and the same counts it answers the page. The titles that are not empty, written
one to a line, are lines as they stand and none of them is blank; filtering them line by line prints
the titles of the rows that are shown, and filtering the page prints it as it is written back. -/
theorem front_ends_agree {converter : Converter} {raw html : Text} {rule : Warned Rule}
    {entries : List (Text × Text)} (hraw : Command.IsPlain raw)
    (htitles : Listing.titles html = .ok entries) (hrule : Rule.read raw = .ok rule)
    (htrials : ∀ entry ∈ entries, ∃ visible, rule.value.alone converter entry.2 = .ok visible) :
    let listed := (entries.map Prod.snd).filter (!·.isEmpty)
    ∃ page pass decided after, Forest.read html = .ok page ∧
      decidePage? (decisionsOf pass.decisions) page = some decided ∧ rows decided = .ok after ∧
      after.filterMap rowTitle? = entries.map Prod.snd ∧
      pass.decisions.map Decision.handle = entries.map (.text ·.1) ∧
      pass.decisions.map Decision.visible = (after.filter hasTitle).map isShown ∧
      Service.Answers converter (Service.titlesRequest raw entries)
        (Service.filterAnswer ⟨raw, entries⟩ pass) ∧
      Service.Answers converter (Service.pageRequest raw html)
        (Service.pageAnswer pass decided.write) ∧
      Text.lines (Text.closeLines listed) = listed ∧
      (∀ title ∈ listed, Text.isAllBlank title = false) ∧
      Command.PrintsFile converter raw false (Text.closeLines listed)
        (Text.closeLines (((after.filter isShown).filterMap rowTitle?).filter (!·.isEmpty))) ∧
      ∀ input, Text.unifyLineFeeds input = html →
        Command.PrintsFile converter raw true input (decided.write ++ ['\n']) := by
  intro listed
  have hfound : candidates html = .ok (entries.map candidateOf) := by
    rw [candidates, htitles]
    rfl
  obtain ⟨page, before, hpage, hbefore, -, hwritten⟩ := exists_written hfound
  have htitles' := htitles
  obtain rfl : entries = titlesFrom 0 before := by
    simp only [Listing.titles, titlesOf, hpage, hbefore, Except.map] at htitles
    exact (Except.ok.inj htitles).symm
  have hdistinct : Distinct (titlesFrom 0 before) := by
    rw [titlesFrom_eq_placed]
    exact distinct_placed 0 before
  obtain ⟨pass, hpass⟩ := Pass.exists_run_eq_ok hdistinct hrule htrials
  obtain ⟨decided, hdecided, happly, hafter⟩ := hwritten (decisionsOf pass.decisions)
  obtain ⟨rule', hrule', hofRule⟩ := Pass.run_eq_ok_iff.mp (hpass true)
  obtain rfl : rule = rule' := Except.ok.inj (hrule.symm.trans hrule')
  obtain ⟨-, hdecides, -⟩ := (Pass.ofRule_eq_ok_iff ..).mp hofRule
  have hrows := forall₂_decidedBy hdecides
  have hlisted : listed = titleLines before := by
    rw [titleLines, ← titlesFrom_snd 0]
  have hlines : ∀ title ∈ listed, Text.IsLine title ∧ Text.isAllBlank title = false := by
    rw [hlisted]
    exact fun title htitle => mem_titleLines htitle
  refine ⟨page, pass, decided, _, hpage, hdecided, hafter, ?_, ?_, map_visible_eq hrows hdecides,
    (Service.titlesRequest_brings raw hdistinct).asks.answers hpass, ?_,
    Text.lines_closeLines fun title htitle => (hlines title htitle).1,
    fun title htitle => (hlines title htitle).2, ?_, ?_⟩
  · rw [filterMap_rowTitle?_eq hrows, titlesFrom_snd]
  · rw [Pass.handles_of_decides hdecides, List.map_map]
    rfl
  · have hafterPage : Service.pageAfter html pass = decided.write := by
      rw [Service.pageAfter, happly]
    have hanswers := (Service.pageRequest_asks raw hfound).answers hpass
    rwa [hafterPage] at hanswers
  · apply Command.printsFile_lines hraw hrule
    rw [Command.titlesIn_closeLines_of_forall hlines, hlisted]
    exact sift_titleLines hrows
  · rintro input rfl
    exact Command.printsFile_page hraw htitles' (hpass true) happly

/-- A listing of three rows: the second title is empty, the third one has a line separator in it. -/
def Listing.brokenTitles : Text :=
  ("<p id=topic_list><tbody><tr><p class=title>b</tr><tr><p class=title> \n</tr>" ++
    "<tr style='top:1;display:none'><p class=title>a\u2028x</tr>").toList

def Command.World.ofText (t : Text) : World :=
  { World.bare with open? := fun _ => .ok (Text.Utf8.encode t) }

/-- The rule `A` on the page and on its titles. -/
theorem front_ends_agree_on_broken_titles :
    let entries := [(['0'], ['b']), (['1'], []), (['2'], ['a', ' ', 'x'])]
    Listing.titles brokenTitles = .ok entries ∧
      ∃ pass decided after, rows decided = .ok after ∧
        pass.decisions.map Decision.visible = (after.filter hasTitle).map isShown ∧
        Service.Answers .identity (Service.titlesRequest ['A'] entries)
          (Service.filterAnswer ⟨['A'], entries⟩ pass) ∧
        Service.Answers .identity (Service.pageRequest ['A'] brokenTitles)
          (Service.pageAnswer pass decided.write) ∧
        (∃ result, Command.run (.ofText "b\na x\n".toList) ["-i".toList, ['t'], ['A']] =
            .ok result ∧ result.exit = 0 ∧ result.out = Text.closeLines
              (((after.filter isShown).filterMap rowTitle?).filter (!·.isEmpty))) ∧
        ∃ result, Command.run (.ofText brokenTitles) [['A'], "--html".toList, "-i".toList, ['t']] =
          .ok result ∧ result.exit = 0 ∧ result.out = decided.write ++ ['\n'] := by
  intro entries
  have hraw : Command.IsPlain ['A'] := by decide
  have htitles : Listing.titles brokenTitles = .ok entries := by decide +kernel
  have hrule : Rule.read ['A'] = .ok ⟨Rule.ofLiteral ['A'], []⟩ := by decide
  have htrials : ∀ entry ∈ entries, ∃ visible,
      (Rule.ofLiteral ['A']).alone .identity entry.2 = .ok visible := by
    simp only [entries, List.forall_mem_cons]
    exact ⟨⟨false, by decide⟩, ⟨false, by decide⟩, ⟨true, by decide⟩, by simp⟩
  have hunified : Text.unifyLineFeeds brokenTitles = brokenTitles := by decide +kernel
  obtain ⟨page, pass, decided, after, -, -, hafter, -, -, hvisible, hlist, hpage, -, -, hlines,
    hhtml⟩ := front_ends_agree hraw htitles hrule htrials
  have hname : Command.IsPlain ['t'] := by decide
  refine ⟨htitles, pass, decided, after, hafter, hvisible, hlist, hpage, ?_, ?_⟩
  · exact hlines (.ofText "b\na x\n".toList) ['t'] false [.read ['t'], .rule ['A']] rfl
      ⟨hname, by decide, rfl⟩ ⟨by decide, by simp [or_comm]⟩
  · exact hhtml brokenTitles hunified (.ofText brokenTitles) ['t'] false
      [.rule ['A'], .html, .read ['t']] rfl ⟨hname, by decide, rfl⟩ ⟨by decide, by simp [or_comm]⟩

end TitleSieve
