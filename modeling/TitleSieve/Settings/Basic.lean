import TitleSieve.Json.Value
import TitleSieve.Number.Numeral
import TitleSieve.Settings.EnvFile
import TitleSieve.Text.Lines
import TitleSieve.Variants.Converter

/-!
The settings of the program. Each field has a value given to the program, a variable of the
environment, a binding of the file of variables, or its default: the first of these that there is
counts. All fields that are wrong are reported, in the order of the fields.
-/

namespace TitleSieve

open Json

structure Settings where
  scripts : ScriptChoice
  /-- Whether forms are kept within a pass. -/
  caching : Bool
  /-- How long to wait after the last keystroke, in milliseconds. -/
  debounce : Int
  logPath : Text
  logLevel : Text
  deriving DecidableEq, Repr

namespace Settings

def default : Settings where
  scripts := .standard
  caching := true
  debounce := 300
  logPath := "./logs/filter.log".toList
  logLevel := "INFO".toList

inductive Field where
  | variantA
  | variantB
  | caching
  | debounce
  | logPath
  | logLevel
  deriving DecidableEq, Repr

def Field.name : Field → String
  | .variantA => "variant_a_config"
  | .variantB => "variant_b_config"
  | .caching => "variant_cache"
  | .debounce => "debounce_ms"
  | .logPath => "log_path"
  | .logLevel => "log_level"

/-- The variable of the environment; a value may be given by this name too. -/
def Field.upperName : Field → String
  | .variantA => "VARIANT_A_CONFIG"
  | .variantB => "VARIANT_B_CONFIG"
  | .caching => "VARIANT_CACHE"
  | .debounce => "DEBOUNCE_MS"
  | .logPath => "LOG_PATH"
  | .logLevel => "LOG_LEVEL"

inductive Reason where
  | notText
  | notFlag
  | unclearFlag
  | notWhole
  | unclearWhole
  | tooLong
  | fractional
  | notFinite
  deriving DecidableEq, Repr

def Reason.kind : Reason → String
  | .notText => "string_type"
  | .notFlag => "bool_type"
  | .unclearFlag => "bool_parsing"
  | .notWhole => "int_type"
  | .unclearWhole => "int_parsing"
  | .tooLong => "int_parsing_size"
  | .fractional => "int_from_float"
  | .notFinite => "finite_number"

def Reason.message : Reason → String
  | .notText => "Input should be a valid string"
  | .notFlag => "Input should be a valid boolean"
  | .unclearFlag => "Input should be a valid boolean, unable to interpret input"
  | .notWhole => "Input should be a valid integer"
  | .unclearWhole => "Input should be a valid integer, unable to parse string as an integer"
  | .tooLong => "Unable to parse input string as an integer, exceeded maximum size"
  | .fractional => "Input should be a valid integer, got a number with a fractional part"
  | .notFinite => "Input should be a finite number"

structure Fault where
  name : Text
  reason : Reason
  deriving DecidableEq, Repr

def readText : Value → Except Reason Text
  | .text t => .ok t
  | _ => .error .notText

def noWords : List String := ["0", "f", "n", "no", "off", "false"]

def yesWords : List String := ["1", "t", "y", "yes", "on", "true"]

/-- Words for yes and no are known in any ASCII case. -/
def readFlagWord (t : Text) : Except Reason Bool :=
  let word := String.ofList (t.map Char.toLower)
  if noWords.contains word then .ok false
  else if yesWords.contains word then .ok true
  else .error .unclearFlag

def flagOf (n : Int) : Except Reason Bool :=
  if n = 0 then .ok false else if n = 1 then .ok true else .error .unclearFlag

def readFlag : Value → Except Reason Bool
  | .bool b => .ok b
  | .text t => readFlagWord t
  | .int n => flagOf n
  | .double x =>
    match x.toInt? with
    | some n => flagOf n
    | none => .error .notFlag
  | _ => .error .notFlag

def readWhole : Value → Except Reason Int
  | .bool b => .ok (if b then 1 else 0)
  | .int n => .ok n
  | .text t =>
    match Number.Numeral.read t with
    | .ok n => .ok n
    | .error .unclear => .error .unclearWhole
    | .error .tooLong => .error .tooLong
  | .double x =>
    match x, x.toInt? with
    | _, some n => .ok n
    | .finite .., none => .error .fractional
    | _, none => .error .notFinite
  | _ => .error .notWhole

structure Sources where
  given : Fields
  environment : Variables
  file : Variables

/-- Sources with a file of variables that is still a text; its lines may end in carriage returns. -/
def Sources.ofText (given : Fields) (environment : Variables) (file : Text) : Sources where
  given := given
  environment := environment
  file := .ofFile environment (Text.unifyLineFeeds file)

/-- The value that counts for a field, with the name under which it was found. -/
def Sources.find? (sources : Sources) (field : Field) : Option (Text × Value) :=
  let name := field.name.toList
  let upperName := field.upperName.toList
  let given (n : Text) := (sources.given.get? n).map (n, ·)
  let valueIn (bound : Variables) :=
    (bound.find? upperName).map fun t => (upperName, Value.text t)
  (given upperName <|> given name) <|> (valueIn sources.environment <|> valueIn sources.file)

def readField {α : Type} (sources : Sources) (field : Field) (read : Value → Except Reason α)
    (default : α) : Except Fault α :=
  match sources.find? field with
  | none => .ok default
  | some (name, value) =>
    match read value with
    | .ok a => .ok a
    | .error reason => .error ⟨name, reason⟩

def faultOf {α : Type} : Except Fault α → List Fault
  | .ok _ => []
  | .error fault => [fault]

def read (sources : Sources) : Except (List Fault) Settings :=
  let variantA := readField sources .variantA readText default.scripts.nameA
  let variantB := readField sources .variantB readText default.scripts.nameB
  let caching := readField sources .caching readFlag default.caching
  let debounce := readField sources .debounce readWhole default.debounce
  let logPath := readField sources .logPath readText default.logPath
  let logLevel := readField sources .logLevel readText default.logLevel
  match variantA, variantB, caching, debounce, logPath, logLevel with
  | .ok a, .ok b, .ok caching, .ok debounce, .ok path, .ok level =>
    .ok ⟨⟨a, b⟩, caching, debounce, path, level⟩
  | a, b, caching, debounce, path, level =>
    .error (faultOf a ++ faultOf b ++ faultOf caching ++ faultOf debounce ++ faultOf path ++
      faultOf level)

end Settings

end TitleSieve
