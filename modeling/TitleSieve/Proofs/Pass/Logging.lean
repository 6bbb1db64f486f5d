import TitleSieve.Pass.Logger
import TitleSieve.Proofs.Json.Objects
import TitleSieve.Proofs.Pass.Independence
import TitleSieve.Proofs.Text.Cuts
import TitleSieve.Proofs.Text.LineReading

/-!
The log of a process that runs passes one after the other. A pass that succeeds leaves one line, a
pass that fails leaves nothing. A line has no control character in it, whatever the rule, and is
read back as the rule and the counts of its pass; of the candidates it tells how many there are and
how many are visible, and nothing else.
-/

namespace TitleSieve

open Json

namespace Logger

variable {logger : Logger}

/-- A logger that is not without its file writes every line. -/
theorem log_eq_of_writes (h : logger ≠ .registered) (line : Text) :
    logger.log ⟨true, true⟩ line = (.ok (), .writing, [line]) := by
  cases logger with
  | registered => exact absurd rfl h
  | unset => rfl
  | writing => rfl

/-- Logs lines one after the other: the lines added to the file, and the logger after them. -/
def logAll (attempt : LogAttempt) : List Text → Logger → List Text × Logger
  | [], logger => ([], logger)
  | line :: rest, logger =>
    let (_, next, written) := logger.log attempt line
    let (more, last) := logAll attempt rest next
    (written ++ more, last)

theorem logAll_fst (h : logger ≠ .registered) (ls : List Text) :
    (logger.logAll ⟨true, true⟩ ls).1 = ls := by
  induction ls generalizing logger with
  | nil => rfl
  | cons line rest ih =>
    have hrest : (Logger.writing.logAll ⟨true, true⟩ rest).1 = rest := ih (by decide)
    simp only [logAll, log_eq_of_writes h, hrest, List.singleton_append]

end Logger

/-- Closed lines without a line feed are cut apart at the line feeds. -/
theorem Text.split_closeLines {ls : List Text} (h : ∀ line ∈ ls, '\n' ∉ line) :
    Text.split (· == '\n') (Text.closeLines ls) = ls ++ [[]] := by
  induction ls with
  | nil => rfl
  | cons line rest ih =>
    rw [List.forall_mem_cons] at h
    have hline : Text.split (· == '\n') line = [line] :=
      Text.split_of_forall fun c hc => beq_eq_false_iff_ne.mpr (ne_of_mem_of_not_mem hc h.1)
    calc
      Text.split (· == '\n') (Text.closeLines (line :: rest))
        = Text.split (· == '\n') (line ++ '\n' :: Text.closeLines rest) := by
        simp [Text.closeLines]
      _ = [line] ++ (rest ++ [[]]) := by
        rw [Text.split_append_cons (by rfl), hline, ih h.2]
      _ = line :: rest ++ [[]] := rfl

namespace Pass

/-- What the line of a pass is read back as, given the rule, the time and the duration. -/
def told (timestamp rule : Text) (summary : Summary) (duration : Number.Double) : Fields :=
  [("timestamp".toList, .text timestamp),
   ("rule".toList, .text rule),
   ("group_count".toList, .int summary.groupCount),
   ("regex_fallbacks".toList, .int summary.fallbackCount),
   ("total".toList, .int summary.total),
   ("visible".toList, .int summary.visible),
   ("hidden".toList, .int summary.hidden),
   ("duration_ms".toList, .double duration)]

theorem nodup_told (timestamp rule : Text) (summary : Summary) (duration : Number.Double) :
    ((told timestamp rule summary duration).map Prod.fst).Nodup := by
  simp only [told, List.map_cons, List.map_nil]
  decide

end Pass

def LogEntry.lineOf (clock : Clock) (rule : Text) (total visible : Nat) : Text :=
  match Rule.read rule with
  | .error _ => []
  | .ok read => line
    ⟨rule, read.value.groupCount, read.value.fallbackCount, total, visible, clock⟩

/-- A call for a pass, with the time and the duration that the clock tells of it. -/
structure PassCall where
  converter : Converter
  caching : Bool
  raw : Option Text
  candidates : List (Candidate Handle)
  timestamp : Text
  elapsed : Number.Double

namespace PassCall

def clock (call : PassCall) : Clock := ⟨call.timestamp, .double call.elapsed⟩

def outcome (call : PassCall) : Except PassFault (Pass Handle) :=
  (Pass.run call.converter call.caching call.raw call.candidates).1

def success? (call : PassCall) : Option (PassCall × Pass Handle) :=
  match call.outcome with
  | .error _ => none
  | .ok pass => some (call, pass)

def lines (call : PassCall) : List Text := Pass.logLines call.clock call.raw call.outcome

/-- What a line says of a call and its pass. It is made of the rule, the clock, and of the
candidates only their number and the number of those that are visible. -/
structure Logged (call : PassCall) (pass : Pass Handle) (line : Text) : Prop where
  isClean : IsClean line
  hidden_eq : pass.summary.visible + pass.summary.hidden = pass.summary.total
  /-- Only the number of digits that a reader takes is limited. -/
  read_eq : IsReadable pass.summary.total → IsReadable pass.summary.groupCount →
    IsReadable pass.summary.fallbackCount →
      ∃ duration, Value.read line =
        .ok (.object (Pass.told call.timestamp (call.raw.getD []) pass.summary duration))
  line_eq : line =
    LogEntry.lineOf call.clock (call.raw.getD []) pass.summary.total pass.summary.visible

variable {call : PassCall} {pass : Pass Handle}

theorem exists_rule_of_outcome (h : call.outcome = .ok pass) :
    ∃ rule, Rule.read (call.raw.getD []) = .ok rule ∧
      Pass.Tallied rule.value call.candidates pass.decisions pass.summary := by
  obtain ⟨rule, hread, hrule⟩ := Pass.run_eq_ok_iff.mp h
  obtain ⟨-, -, htallied⟩ := (Pass.ofRule_eq_ok_iff ..).mp hrule
  exact ⟨rule, hread, htallied⟩

theorem line_eq_lineOf (h : call.outcome = .ok pass) :
    (LogEntry.ofPass call.raw pass call.clock).line =
      LogEntry.lineOf call.clock (call.raw.getD []) pass.summary.total pass.summary.visible := by
  obtain ⟨rule, hread, -, -, -, hgroups, hfallbacks⟩ := exists_rule_of_outcome h
  simp only [LogEntry.lineOf, hread, LogEntry.ofPass, hgroups, hfallbacks, Rule.groupCount]

/-- The line is clean however long the numbers are. -/
theorem isClean_line (call : PassCall) (pass : Pass Handle) :
    IsClean (LogEntry.ofPass call.raw pass call.clock).line := by
  obtain ⟨duration, hduration⟩ := exists_readsAs_writeDouble call.elapsed.roundThousandths
  apply isClean_write_object
  simp only [LogEntry.fields, LogEntry.ofPass, List.map_cons, List.map_nil, List.forall_mem_cons,
    Value.write]
  exact ⟨isClean_writeText _, isClean_writeText _, isClean_writeInt _, isClean_writeInt _,
    isClean_writeInt _, isClean_writeInt _, isClean_writeInt _, hduration.isClean, by simp⟩

theorem read_line (hhidden : pass.summary.visible + pass.summary.hidden = pass.summary.total)
    (htotal : IsReadable pass.summary.total) (hgroups : IsReadable pass.summary.groupCount)
    (hfallbacks : IsReadable pass.summary.fallbackCount) :
    ∃ duration, Value.read (LogEntry.ofPass call.raw pass call.clock).line =
      .ok (.object (Pass.told call.timestamp (call.raw.getD []) pass.summary duration)) := by
  obtain ⟨duration, hduration⟩ := exists_readsAs_writeDouble call.elapsed.roundThousandths
  have hcount : ∀ {n : Nat} {m : Int}, m = n → IsReadable n → ReadsAs (writeInt m) (.int n) := by
    rintro n _ rfl hn
    exact readsAs_writeInt hn
  have hvisible : IsReadable pass.summary.visible := htotal.of_le (by omega)
  have hhide : IsReadable pass.summary.hidden := htotal.of_le (by omega)
  refine ⟨duration, Value.read_write_object ?_ (Pass.nodup_told ..)⟩
  exact .cons ⟨rfl, readsAs_writeText _⟩ <| .cons ⟨rfl, readsAs_writeText _⟩ <|
    .cons ⟨rfl, hcount rfl hgroups⟩ <| .cons ⟨rfl, hcount rfl hfallbacks⟩ <|
    .cons ⟨rfl, hcount rfl htotal⟩ <| .cons ⟨rfl, hcount rfl hvisible⟩ <|
    .cons ⟨rfl, hcount (by simp only [LogEntry.ofPass]; omega) hhide⟩ <|
    .cons ⟨rfl, hduration⟩ .nil

theorem logged_line (h : call.outcome = .ok pass) :
    Logged call pass (LogEntry.ofPass call.raw pass call.clock).line := by
  obtain ⟨rule, -, -, -, hhidden, -⟩ := exists_rule_of_outcome h
  exact ⟨isClean_line call pass, hhidden, read_line hhidden, line_eq_lineOf h⟩

/-- Call by call, the lines are those of the passes that succeed. -/
theorem forall₂_lines (calls : List PassCall) :
    List.Forall₂ (fun success => Logged success.1 success.2) (calls.filterMap success?)
      (calls.flatMap lines) := by
  induction calls with
  | nil => exact .nil
  | cons call rest ih =>
    rw [List.flatMap_cons]
    cases houtcome : call.outcome with
    | error fault =>
      have hnone : call.success? = none := by simp only [success?, houtcome]
      have hlines : call.lines = [] := by simp only [lines, Pass.logLines, houtcome]
      rw [List.filterMap_cons_none hnone, hlines]
      exact ih
    | ok pass =>
      have hsome : call.success? = some (call, pass) := by simp only [success?, houtcome]
      have hlines : call.lines = [(LogEntry.ofPass call.raw pass call.clock).line] := by
        simp only [lines, Pass.logLines, houtcome]
      rw [List.filterMap_cons_some hsome, hlines]
      exact .cons (logged_line houtcome) ih

/-- The log of any calls for passes, from the first one of a process on: it is cut at its line feeds
into the lines that were written, and these are one line for each pass that succeeds, in the order
of the calls. Each of them is free of control characters and is read back as the rule, empty if none
was given, and the counts of its pass; and passes by the same rule with the same two counts are
logged alike, whatever their candidates are. -/
theorem log_tells_each_pass (calls : List PassCall) :
    let written := (Logger.unset.logAll ⟨true, true⟩ (calls.flatMap lines)).1
    Text.split (· == '\n') (Text.closeLines written) = written ++ [[]] ∧
      List.Forall₂ (fun success => Logged success.1 success.2) (calls.filterMap success?)
        written := by
  intro written
  have hwritten : written = calls.flatMap lines := Logger.logAll_fst (by decide) _
  have hlogged := forall₂_lines calls
  rw [← hwritten] at hlogged
  have hclean : ∀ line ∈ written, IsClean line :=
    ((List.forall₂_and_left ..).mp (hlogged.flip.imp fun _ _ h => ⟨h.isClean, h⟩)).1
  refine ⟨Text.split_closeLines fun line hline hbreak => ?_, hlogged⟩
  exact absurd (hclean line hline '\n' hbreak) (by decide)

end PassCall

end TitleSieve
