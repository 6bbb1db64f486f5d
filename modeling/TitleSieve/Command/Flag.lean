import TitleSieve.Pattern.CharTest
import TitleSieve.Text.Quoted

/-!
The flags of the command line and its usage text. A word of the command line is a flag, perhaps with
a value attached, or plain. Long names may be cut short where that leaves no doubt; numbers, and
words with a space in them, are plain although they begin with a hyphen.
-/

namespace TitleSieve.Command

inductive Flag where
  | help
  | input
  | html
  | showHidden
  | noVariants
  deriving DecidableEq, Repr

def flagNames : List (Text × Flag) :=
  [("-h", Flag.help), ("--help", .help), ("-i", .input), ("--input", .input), ("--html", .html),
    ("--show-hidden", .showHidden), ("--no-variants", .noVariants)].map
    fun (name, flag) => (String.toList name, flag)

/-- A flag as messages call it. -/
def Flag.title : Flag → String
  | .help => "-h/--help"
  | .input => "-i/--input"
  | .html => "--html"
  | .showHidden => "--show-hidden"
  | .noVariants => "--no-variants"

/-- Why a file cannot be opened, with the number that the system gives to the reason. -/
structure OpenFault where
  number : Nat
  reason : String
  deriving DecidableEq, Repr

def OpenFault.absent : OpenFault := ⟨2, "No such file or directory"⟩

inductive UsageFault where
  | ambiguous (given : Text) (names : List Text)
  | ignoredValue (flag : Flag) (value : Text)
  | missingValue (flag : Flag)
  | unopened (name : Text) (fault : OpenFault)
  | invalidName (name : Text)
  | unrecognized (words : List Text)
  deriving DecidableEq, Repr

def UsageFault.message : UsageFault → String
  | .ambiguous given names =>
    "ambiguous option: " ++ String.ofList given ++ " could match " ++
      String.ofList (Text.joinWith [',', ' '] names)
  | .ignoredValue flag value =>
    "argument " ++ flag.title ++ ": ignored explicit argument " ++ String.ofList (Text.quoted value)
  | .missingValue flag => "argument " ++ flag.title ++ ": expected one argument"
  | .unopened name fault =>
    "argument " ++ Flag.input.title ++ ": can't open '" ++ String.ofList name ++ "': [Errno " ++
      toString fault.number ++ "] " ++ fault.reason ++ ": " ++ String.ofList (Text.quoted name)
  | .invalidName name =>
    "argument " ++ Flag.input.title ++ ": invalid FileType('r', encoding='utf-8') value: " ++
      String.ofList (Text.quoted name)
  | .unrecognized words =>
    "unrecognized arguments: " ++ String.ofList (Text.joinWith [' '] words)

def usage : String :=
  "usage: titlefilter [-h] [-i FILE] [--html] [--show-hidden] [--no-variants]\n" ++
    "                   [rule]\n"

def helpText : String :=
  usage ++ "\n" ++
    "Title Filter - filter release titles with AND/OR/regex rules\n\n" ++
    "positional arguments:\n" ++
    "  rule                  Filter rule (empty shows everything)\n\n" ++
    "options:\n" ++
    "  -h, --help            show this help message and exit\n" ++
    "  -i FILE, --input FILE\n" ++
    "                        Titles, one per line, or a listing page with --html\n" ++
    "                        (default: stdin)\n" ++
    "  --html                Treat input as a listing page and print it with rows\n" ++
    "                        hidden\n" ++
    "  --show-hidden         Also print hidden titles, prefixed with '-'\n" ++
    "  --no-variants         Disable Simplified/Traditional matching\n\n" ++
    "Rule syntax:\n" ++
    "  ;  or ；   AND between groups      1080p|2160p；简体|繁体\n" ++
    "  |          OR inside a group       HEVC|x265\n" ++
    "  /pattern/  regular expression      /\\[第\\d+集\\]/；1080p\n\n" ++
    "Examples:\n" ++
    "  titlefilter \"HEVC|x265；简体\" -i titles.txt\n" ++
    "  titlefilter \"/s0?1e\\d+/\" -i listing.html --html > filtered.html\n" ++
    "        \n"

/-- A word of the command line. -/
inductive Word where
  | plain (word : Text)
  /-- `short` tells that the flag goes by a name with a single hyphen. -/
  | flag (flag : Flag) (short : Bool) (value : Option Text)
  | unknown (word : Text)
  deriving DecidableEq, Repr

def isShort (name : Text) : Bool := name.length == 2

def isDigit (c : Char) : Bool := Pattern.Kind.digit.holds false c.toNat

/-- A hyphen and a number with or without a decimal point; a line feed may follow. -/
def isNegativeNumber : Text → Bool
  | '-' :: rest =>
    let body := if rest.getLast? = some '\n' then rest.dropLast else rest
    let fraction := body.dropWhile isDigit
    match fraction with
    | [] => !body.isEmpty
    | '.' :: digits => !digits.isEmpty && digits.all isDigit
    | _ => false
  | _ => false

/-- The long names that begin like this. -/
def longNames (start : Text) : List (Text × Flag) :=
  flagNames.filter fun (name, _) => !isShort name && start.isPrefixOf name

/-- What a word is that begins with two hyphens and is no full name. -/
def readLong (word : Text) (otherwise : Word) : Except UsageFault Word :=
  let (start, value) :=
    match Text.cutAt? ['='] word with
    | some (start, value) => (start, some value)
    | none => (word, none)
  match longNames start with
  | [] => .ok otherwise
  | [(_, flag)] => .ok (.flag flag false value)
  | several => .error (.ambiguous word (several.map Prod.fst))

/-- What a word is that begins with one hyphen and is no full name. -/
def readShort (word : Text) (otherwise : Word) : Word :=
  match flagNames.lookup (word.take 2) with
  | some flag => .flag flag true (some (word.drop 2))
  | none => otherwise

def readWord (word : Text) : Except UsageFault Word :=
  let otherwise : Word :=
    if isNegativeNumber word || word.contains ' ' then .plain word else .unknown word
  match flagNames.lookup word with
  | some flag => .ok (.flag flag (isShort word) none)
  | none =>
    match word with
    | '-' :: second :: _ =>
      let assigned : Option Word := do
        let (name, value) ← Text.cutAt? ['='] word
        let flag ← flagNames.lookup name
        return .flag flag (isShort name) (some value)
      match assigned with
      | some flag => .ok flag
      | none => if second = '-' then readLong word otherwise else .ok (readShort word otherwise)
    | _ => .ok (.plain word)

end TitleSieve.Command
