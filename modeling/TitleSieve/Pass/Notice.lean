import TitleSieve.Pass.Basic

/-!
What is told on the way of a pass, beside its line in the log of passes: the patterns that are taken
as literals, the conversions that are loaded when the first text is submitted, and at last the
counts. Each notice is of a level, and only those from some level on are written, each with the time
before it.
-/

namespace TitleSieve

inductive Level where
  | unset
  | debug
  | info
  | warning
  | error
  | critical
  deriving DecidableEq, Repr

namespace Level

def rank : Level → Nat
  | .unset => 0
  | .debug => 10
  | .info => 20
  | .warning => 30
  | .error => 40
  | .critical => 50

def name : Level → String
  | .unset => "NOTSET"
  | .debug => "DEBUG"
  | .info => "INFO"
  | .warning => "WARNING"
  | .error => "ERROR"
  | .critical => "CRITICAL"

/-- The level of a name in capitals. Two levels have a second name. -/
def named? (text : Text) : Option Level :=
  let firstNames :=
    [unset, debug, info, warning, error, critical].map fun level => (level.name, level)
  (firstNames ++ [("WARN", warning), ("FATAL", critical)]).lookup (String.ofList text)

end Level

structure Notice where
  /-- The part of the program that tells it. -/
  source : String
  level : Level
  message : String
  deriving DecidableEq, Repr

def Notice.line (time : Text) (notice : Notice) : Text :=
  time ++
    (" [" ++ notice.source ++ "] " ++ notice.level.name ++ ": " ++ notice.message ++ "\n").toList

def Warning.notice (warning : Warning) : Notice where
  source := "titlefilter.rules"
  level := .warning
  message := warning.message

def ScriptChoice.notice (choice : ScriptChoice) : Notice where
  source := "titlefilter.normalizer"
  level := .info
  message := "Loaded OpenCC converters (" ++ String.ofList choice.nameA ++ ", " ++
    String.ofList choice.nameB ++ ")"

def Summary.notice (summary : Summary) : Notice where
  source := "titlefilter.orchestrator"
  level := .debug
  message := "Filtered " ++ toString summary.total ++ " candidates with " ++
    toString summary.groupCount ++ " groups: " ++ toString summary.visible ++ " visible"

/-- What a pass by this rule tells when it has come to an outcome and a ledger. The conversions, if
there are any to load, are loaded for the first text that is submitted. -/
def Pass.notices {H : Type} (loading : Option ScriptChoice) (raw : Option Text)
    (outcome : Except PassFault (Pass H)) (ledger : Ledger) : List Notice :=
  let warnings :=
    match Rule.readGiven raw with
    | .error _ => []
    | .ok rule => rule.warnings
  warnings.map Warning.notice ++
    (if ledger.submitted.isEmpty then [] else loading.toList.map ScriptChoice.notice) ++
    match outcome with
    | .error _ => []
    | .ok pass => [pass.summary.notice]

/-- Where notices are written: from which level on, and the time before each line. -/
structure Telling where
  least : Level
  time : Nat → Text

/-- The lines for notices; those of a lower level are left out. -/
def Telling.write (telling : Telling) (notices : List Notice) : Text :=
  ((notices.filter fun notice => telling.least.rank ≤ notice.level.rank).mapIdx fun place notice =>
    notice.line (telling.time place)).flatten

end TitleSieve
