import TitleSieve.Proofs.Command.LineTitles
import TitleSieve.Proofs.Command.RuleWords
import TitleSieve.Proofs.Pass.Economy
import TitleSieve.Proofs.Text.Encoding

/-!
Runs of the command that filter lines. A run succeeds exactly if the rule can be read and no trial
of a title fails, and it prints the titles that the rule keeps. What is printed is read back as
the same titles, so filtering what has been filtered is filtering by both rules at once.
-/

namespace TitleSieve.Command

open Listing Pass

/-- A fault in a pass is reported only if a conversion has failed. -/
theorem map_after_passFailure_eq_ok {fault : PassFault} {told : Text} {result : Output}
    (h : (passFailure fault).map (Output.after told) = .ok result) :
    ∃ cause message, fault = .evaluation (.conversion cause) ∧ cause.report? = some message ∧
      result = (failure 1 message).after told := by
  unfold passFailure at h
  split at h
  next cause =>
    split at h
    next message hmessage => exact ⟨cause, message, rfl, hmessage, (Except.ok.inj h).symm⟩
    next => cases h
  next => cases h

/-- The notices of a pass over these titles. -/
def noticesOf (converter : Converter) (caching : Bool) (loading : Option ScriptChoice) (raw : Text)
    (titles : List (Text × Text)) : List Notice :=
  let ran := Pass.run converter caching (some raw) (titles.map candidateOf)
  Pass.notices loading (some raw) ran.1 ran.2

def World.told (world : World) (converter : Converter) (loading : Option ScriptChoice) (raw : Text)
    (titles : List (Text × Text)) : Text :=
  world.tell (noticesOf converter world.caching loading raw titles)

theorem filterTitles_of_error {world : World} {options : Options} {titles : List (Text × Text)}
    {write : Pass Handle → Except Crash Text} {fault : PassFault}
    (h : (Pass.run (converterOf world options) true (some options.rule)
      (titles.map candidateOf)).1 = .error fault) :
    filterTitles world options titles write = (passFailure fault).map
      (.after (world.told (converterOf world options) (loadingOf world options) options.rule
        titles)) := by
  rw [← run_fst_eq _ world.caching] at h
  simp only [filterTitles, World.told, noticesOf, h]

theorem filterTitles_of_ok {world : World} {options : Options} {titles : List (Text × Text)}
    {write : Pass Handle → Except Crash Text} {pass : Pass Handle} {out : Text}
    (h : (Pass.run (converterOf world options) true (some options.rule)
      (titles.map candidateOf)).1 = .ok pass)
    (hout : write pass = .ok out) :
    filterTitles world options titles write =
      .ok ⟨0, out, world.told (converterOf world options) (loadingOf world options) options.rule
          titles ++ summaryLine pass.summary,
        some (LogEntry.ofPass (some options.rule) pass world.clock).line⟩ := by
  rw [← run_fst_eq _ world.caching] at h
  simp only [filterTitles, World.told, noticesOf, h, hout, Except.map, Output.after]

theorem filterTitles_of_write_error {world : World} {options : Options}
    {titles : List (Text × Text)} {write : Pass Handle → Except Crash Text} {pass : Pass Handle}
    {cause : Crash}
    (h : (Pass.run (converterOf world options) true (some options.rule)
      (titles.map candidateOf)).1 = .ok pass)
    (hcause : write pass = .error cause) :
    filterTitles world options titles write = .error cause := by
  rw [← run_fst_eq _ world.caching] at h
  simp only [filterTitles, h, hcause, Except.map]

/-- Titles are filtered with success exactly if the pass succeeds. -/
theorem filterTitles_eq_ok_iff (world : World) (options : Options) (titles : List (Text × Text))
    (write : Pass Handle → Text) (out : Text) :
    (∃ result, filterTitles world options titles (fun pass => .ok (write pass)) = .ok result ∧
      result.exit = 0 ∧ result.out = out) ↔
      ∃ pass, (Pass.run (converterOf world options) true (some options.rule)
        (titles.map candidateOf)).1 = .ok pass ∧ write pass = out := by
  cases hrun : (Pass.run (converterOf world options) true (some options.rule)
      (titles.map candidateOf)).1 with
  | error fault =>
    rw [filterTitles_of_error hrun]
    constructor
    · rintro ⟨result, hresult, hexit, -⟩
      obtain ⟨cause, message, -, -, rfl⟩ := map_after_passFailure_eq_ok hresult
      cases hexit
    · rintro ⟨pass, hpass, -⟩
      cases hpass
  | ok pass =>
    rw [filterTitles_of_ok hrun rfl]
    simp only [Except.ok.injEq, exists_eq_left', true_and]

def Prints (world : World) (words : List Text) (input output : Text) : Prop :=
  ∃ result, run { world with standardInput := Text.Utf8.encode input } words = .ok result ∧
    result.exit = 0 ∧ result.out = output

/-- The converter of a command line with or without the flag that switches the variants off. -/
def World.converterFor (world : World) (noVariants : Bool) : Converter :=
  if noVariants then .identity else world.converter

/-- What a run that filters lines prints is what the rule keeps. -/
theorem prints_iff (world : World) {raw input output : Text} {noVariants : Bool} {words : List Text}
    (hwords : FiltersBy raw noVariants words) (hraw : IsPlain raw) :
    Prints world words input output ↔
      ∃ rule kept, Rule.read raw = .ok rule ∧
        rule.value.sift (world.converterFor noVariants) (titlesIn (Text.unifyLineFeeds input)) =
          .ok kept ∧
        output = Text.closeLines kept := by
  have hdistinct : Distinct (textTitles (Text.unifyLineFeeds input)) := distinct_textTitles _
  unfold Prints run
  simp only [optionsOf_of_filtersBy _ hwords hraw, Option.getD_none, filter,
    Text.Utf8.decode_encode, Bool.false_eq_true, if_false, filterText]
  rw [filterTitles_eq_ok_iff, ← textTitles_snd]
  exact run_entries_eq_ok_iff hdistinct true raw output

/-- Filtering what has been filtered is filtering by both rules: if a run prints `output` and a
run by a second rule on that prints `left`, a run by both rules with a semicolon between them
prints `left` at once. A further run by the first rule on its own output prints it again. The runs
may happen in worlds that differ in everything but the converter. -/
theorem prints_joined_of_prints {world again joint : World}
    (hagain : again.converter = world.converter) (hjoint : joint.converter = world.converter)
    {first second : Text} (hfirst : IsPlain first) (hsecond : IsPlain second) {noVariants : Bool}
    {firstWords repeatedWords secondWords jointWords : List Text}
    (hfirstWords : FiltersBy first noVariants firstWords)
    (hrepeatedWords : FiltersBy first noVariants repeatedWords)
    (hsecondWords : FiltersBy second noVariants secondWords)
    (hjointWords : FiltersBy (first ++ ';' :: second) noVariants jointWords)
    {input output : Text} (hprints : Prints world firstWords input output) :
    (∀ left, Prints again secondWords output left → Prints joint jointWords input left) ∧
      Prints again repeatedWords output output := by
  have hconverter : again.converterFor noVariants = world.converterFor noVariants := by
    simp only [World.converterFor, hagain]
  have hconverter' : joint.converterFor noVariants = world.converterFor noVariants := by
    simp only [World.converterFor, hjoint]
  obtain ⟨rule, kept, hrule, hkept, rfl⟩ := (prints_iff world hfirstWords hfirst).mp hprints
  have hread := titlesIn_closeLines fun title => Rule.mem_of_mem_sift hkept
  constructor
  · intro left hleft
    obtain ⟨more, rest, hmore, hrest, rfl⟩ := (prints_iff again hsecondWords hsecond).mp hleft
    rw [hread, hconverter] at hrest
    have hboth : Rule.read (first ++ ';' :: second) =
        .ok ⟨rule.value.and more.value, rule.warnings ++ more.warnings⟩ := by
      rw [Rule.read_append_cons (by decide), hrule, hmore]
    refine (prints_iff joint hjointWords (isPlain_append_cons hfirst second)).mpr
      ⟨_, rest, hboth, ?_, rfl⟩
    rw [hconverter']
    exact Rule.sift_and hkept hrest
  · refine (prints_iff again hrepeatedWords hfirst).mpr ⟨rule, kept, hrule, ?_, rfl⟩
    rw [hread, hconverter]
    exact Rule.sift_kept hkept

def World.bare : World where
  standardInput := []
  open? := fun _ => .error .absent
  converter := .identity
  clock := ⟨[], .null⟩

/-- Of three titles, one of them behind a blank line, two have an `a` and one of these a `b`. -/
theorem prints_joined_three_titles :
    IsPlain ['a'] ∧ IsPlain ['b'] ∧
      FiltersBy ['a'] false [['a']] ∧ FiltersBy ['b'] false [['b']] ∧
      FiltersBy ['a', ';', 'b'] false [['a', ';', 'b']] ∧
      Prints .bare [['a']] "B\n \rxA\r\nba".toList "xA\nba\n".toList ∧
      Prints .bare [['b']] "xA\nba\n".toList "ba\n".toList ∧
      Prints .bare [['a', ';', 'b']] "B\n \rxA\r\nba".toList "ba\n".toList ∧
      Prints .bare [['a']] "xA\nba\n".toList "xA\nba\n".toList := by
  have hfirst : IsPlain ['a'] := by decide
  have hsecond : IsPlain ['b'] := by decide
  have hfirstPrints : Prints .bare [['a']] "B\n \rxA\r\nba".toList "xA\nba\n".toList :=
    (prints_iff .bare .alone hfirst).mpr ⟨_, ["xA".toList, "ba".toList], rfl, by decide, rfl⟩
  have hsecondPrints : Prints .bare [['b']] "xA\nba\n".toList "ba\n".toList :=
    (prints_iff .bare .alone hsecond).mpr ⟨_, ["ba".toList], rfl, by decide, rfl⟩
  have hboth : (∀ left, Prints .bare [['b']] "xA\nba\n".toList left →
      Prints .bare [['a', ';', 'b']] "B\n \rxA\r\nba".toList left) ∧
      Prints .bare [['a']] "xA\nba\n".toList "xA\nba\n".toList :=
    prints_joined_of_prints rfl rfl hfirst hsecond .alone .alone .alone .alone hfirstPrints
  exact ⟨hfirst, hsecond, .alone, .alone, .alone, hfirstPrints, hsecondPrints,
    hboth.1 _ hsecondPrints, hboth.2⟩

end TitleSieve.Command
