import TitleSieve.Command.Plan
import TitleSieve.Listing.Visibility
import TitleSieve.Pass.Log
import TitleSieve.Pass.Notice
import TitleSieve.Text.Lines
import TitleSieve.Text.Utf8

/-!
Running the command. Files are opened while the command line is gone through and read afterwards;
the text is filtered line by line or as a listing page. What the pass tells on its way is written to
the standard error, before the counts or the failure. What cannot be filtered leaves nothing on the
standard output and no line for the log.
-/

namespace TitleSieve.Command

structure World where
  standardInput : List Nat
  open? : Text → Except OpenFault (List Nat)
  converter : Converter
  clock : Clock
  /-- Whether forms are kept within a pass. -/
  caching : Bool := true
  /-- The conversions that the converter loads when the first text is submitted, if it does. -/
  loading : Option ScriptChoice := none
  /-- How notices are written to the standard error, if they are written at all. -/
  telling : Option Telling := none

structure Options where
  rule : Text
  /-- The bytes of the file that was opened last; the standard input is read if there is none. -/
  input : Option (List Nat)
  html : Bool
  showHidden : Bool
  noVariants : Bool

namespace Options

def default : Options := ⟨[], none, false, false, false⟩

end Options

/-- What the command leaves behind, with the line that the log must have before anything is
printed. -/
structure Output where
  exit : Nat
  out : Text
  err : Text
  line : Option Text

def Output.after (told : Text) (output : Output) : Output :=
  { output with err := told ++ output.err }

/-- A fault that the command does not report by itself. -/
inductive Crash where
  | undecodable (error : Text.Utf8.Error)
  | page (fault : Listing.PageFault)
  | pass (fault : PassFault)

def Crash.report? : Crash → Option String
  | .undecodable error => some error.message
  | .page fault => some fault.message
  | .pass fault => fault.report?

/-- How going through the steps ends before the command has run. -/
inductive Ending where
  | help
  | fault (cause : UsageFault)

def Ending.output : Ending → Output
  | .help => ⟨0, helpText.toList, [], none⟩
  | .fault cause => ⟨2, [], (usage ++ "titlefilter: error: " ++ cause.message ++ "\n").toList, none⟩

def standardName : Text := ['-']

def take (world : World) (options : Options) : Step → Except Ending Options
  | .help => .error .help
  | .html => .ok { options with html := true }
  | .showHidden => .ok { options with showHidden := true }
  | .noVariants => .ok { options with noVariants := true }
  | .rule text => .ok { options with rule := text }
  | .read name =>
    if name = standardName then .ok { options with input := none }
    else if name.contains '\x00' then .error (.fault (.invalidName name))
    else
      match world.open? name with
      | .ok bytes => .ok { options with input := some bytes }
      | .error fault => .error (.fault (.unopened name fault))

def takeAll (world : World) : List Step → Options → Except Ending Options
  | [], options => .ok options
  | step :: rest, options =>
    match take world options step with
    | .error ending => .error ending
    | .ok options => takeAll world rest options

def optionsOf (world : World) (plan : Plan) : Except Ending Options :=
  match takeAll world plan.steps .default, plan.fault with
  | .error ending, _ => .error ending
  | .ok _, some fault => .error (.fault fault)
  | .ok options, none => .ok options

/-- The lines that are not blank, each with its number among all lines as its handle. -/
def lineTitles : Nat → List Text → List (Text × Text)
  | _, [] => []
  | index, line :: rest =>
    if Text.isAllBlank line then lineTitles (index + 1) rest
    else (Listing.handleOf index, line) :: lineTitles (index + 1) rest

def textTitles (raw : Text) : List (Text × Text) := lineTitles 0 (Text.lines raw)

def printed (showHidden : Bool) : List (Text × Text) → List (Decision Handle) → Text
  | (_, title) :: titles, decision :: decisions =>
    (if decision.visible then title ++ ['\n']
      else if showHidden then '-' :: ' ' :: title ++ ['\n']
      else []) ++ printed showHidden titles decisions
  | _, _ => []

def summaryLine (summary : Summary) : Text :=
  ("[+] " ++ toString summary.visible ++ "/" ++ toString summary.total ++ " visible | groups: " ++
    toString summary.groupCount ++ " | regex fallbacks: " ++ toString summary.fallbackCount ++
    "\n").toList

def failure (exit : Nat) (message : String) : Output :=
  ⟨exit, [], ("[-] " ++ message ++ "\n").toList, none⟩

/-- A fault in a pass is reported if it is a failed conversion. -/
def passFailure (fault : PassFault) : Except Crash Output :=
  match fault with
  | .evaluation (.conversion conversion) =>
    match conversion.report? with
    | some message => .ok (failure 1 message)
    | none => .error (.pass fault)
  | _ => .error (.pass fault)

def pageFailure (fault : Listing.PageFault) : Except Crash Output :=
  match fault with
  | .missing what => .ok (failure 2 what.message)
  | .markup _ => .error (.page fault)

def converterOf (world : World) (options : Options) : Converter :=
  if options.noVariants then .identity else world.converter

def loadingOf (world : World) (options : Options) : Option ScriptChoice :=
  if options.noVariants then none else world.loading

def World.tell (world : World) (notices : List Notice) : Text :=
  match world.telling with
  | none => []
  | some telling => telling.write notices

def filterTitles (world : World) (options : Options) (titles : List (Text × Text))
    (write : Pass Handle → Except Crash Text) : Except Crash Output :=
  let (outcome, ledger) := Pass.run (converterOf world options) world.caching (some options.rule)
    (titles.map Listing.candidateOf)
  let told := world.tell (Pass.notices (loadingOf world options) (some options.rule) outcome ledger)
  let output :=
    match outcome with
    | .error fault => passFailure fault
    | .ok pass =>
      (write pass).map fun out =>
        ⟨0, out, summaryLine pass.summary,
          some (LogEntry.ofPass (some options.rule) pass world.clock).line⟩
  output.map (Output.after told)

def filterText (world : World) (options : Options) (raw : Text) : Except Crash Output :=
  let titles := textTitles raw
  filterTitles world options titles fun pass =>
    .ok (printed options.showHidden titles pass.decisions)

def filterPage (world : World) (options : Options) (raw : Text) : Except Crash Output :=
  match Listing.titles raw with
  | .error fault => pageFailure fault
  | .ok titles =>
    filterTitles world options titles fun pass =>
      match Listing.applyDecisions raw (Listing.decisionsOf pass.decisions) with
      | .error fault => .error (.page fault)
      | .ok html => .ok (html ++ ['\n'])

def filter (world : World) (options : Options) (bytes : List Nat) : Except Crash Output :=
  match Text.Utf8.decode bytes with
  | .error error => .error (.undecodable error)
  | .ok read =>
    let raw := Text.unifyLineFeeds read
    if options.html then filterPage world options raw else filterText world options raw

def run (world : World) (words : List Text) : Except Crash Output :=
  match optionsOf world (.ofCommandLine words) with
  | .error ending => .ok ending.output
  | .ok options => filter world options (options.input.getD world.standardInput)

end TitleSieve.Command
