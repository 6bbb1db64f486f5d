import Std.Time.DateTime
import TitleSieve.Command.Process
import TitleSieve.Pass.Timestamp
import TitleSieve.Variants.ChineseScripts
import TitleSieve.Variants.LazyConverter

/-!
The command as a program: it reads the settings, the files and the standard input, and writes what
running the command gives. It converts by the dictionaries of `ChineseScripts` and no others, which
are an excerpt.
-/

namespace TitleSieve.Program

open Command

def bytesOf (bytes : ByteArray) : List Nat := bytes.toList.map UInt8.toNat

def openFaultOf : IO.Error → OpenFault
  | .noFileOrDirectory .. => .absent
  | .permissionDenied .. => ⟨13, "Permission denied"⟩
  | .inappropriateType .. => ⟨21, "Is a directory"⟩
  | _ => ⟨5, "Input/output error"⟩

def readFile (name : Text) : IO (Except OpenFault (List Nat)) := do
  try
    return .ok (bytesOf (← IO.FS.readBinFile (String.ofList name)))
  catch e => return .error (openFaultOf e)

def readFiles : List Command.Step → IO (List (Text × Except OpenFault (List Nat)))
  | [] => return []
  | .read name :: rest => do
    let file ← readFile name
    return (name, file) :: (← readFiles rest)
  | _ :: rest => readFiles rest

def settingsFields : List Settings.Field :=
  [.variantA, .variantB, .caching, .debounce, .logPath, .logLevel]

def readEnvironment : List Settings.Field → IO Settings.Variables
  | [] => return []
  | field :: rest => do
    let value ← IO.getEnv field.upperName
    return (field.upperName.toList, value.map String.toList) :: (← readEnvironment rest)

def readSettings : IO (Except (List Settings.Fault) Settings) := do
  let environment ← readEnvironment settingsFields
  let file ← try IO.FS.readFile ".env" catch _ => pure ""
  return Settings.read (.ofText [] environment file.toList)

def now : IO Nat := do
  let time ← Std.Time.Timestamp.now
  return (time.toNanosecondsSinceUnixEpoch.toInt / 1000).toNat

def directoryOf (path : Text) : Text :=
  match (path.reverse.dropWhile (· != '/')).reverse with
  | [] => ['.']
  | directory => directory

/-- Makes the directory of the log and opens the log in it. -/
def openLog (path : Text) : IO LogAttempt := do
  try
    IO.FS.createDirAll (String.ofList (directoryOf path))
  catch _ => return ⟨false, false⟩
  try
    IO.FS.withFile (String.ofList path) .append fun _ => return ⟨true, true⟩
  catch _ => return ⟨true, false⟩

/-- The log is opened only if a line is to be written. -/
def attemptFor (path : Text) : Except Failure Output → IO LogAttempt
  | .ok ⟨_, _, _, some _⟩ => openLog path
  | _ => return ⟨false, false⟩

def appendLog (path : Text) (lines : List Text) : IO Unit := do
  unless lines.isEmpty do
    IO.FS.withFile (String.ofList path) .append fun file =>
      file.putStr (String.ofList (lines.flatMap (· ++ ['\n'])))

/-- What is left of a stream, in at most so many pieces. -/
def readStream (stream : IO.FS.Stream) (read : ByteArray) : Nat → IO ByteArray
  | 0 => return read
  | pieces + 1 => do
    let piece ← stream.read 65536
    if piece.isEmpty then return read else readStream stream (read ++ piece) pieces

/-- The standard input, if the command is going to read it. -/
def readInput (world : World) (plan : Plan) : IO (List Nat) := do
  match optionsOf world plan with
  | .ok options =>
    if options.input.isSome then return []
    else return bytesOf (← readStream (← IO.getStdin) .empty 1000000)
  | .error _ => return []

def runCommand (settings : Settings) (words : List Text) : IO UInt32 := do
  let plan := Plan.ofCommandLine words
  let files ← readFiles plan.steps
  let started ← IO.monoNanosNow
  let clockTime ← now
  let converter := LazyConverter.fresh ChineseScripts.library settings.scripts
  let world : World := {
    standardInput := []
    open? := fun name => (files.lookup name).getD (.error .absent)
    converter := converter.converter
    loading := converter.loads?
    clock := ⟨Timestamp.ofMicroseconds clockTime, .double .undefined⟩ }
  let input ← readInput world plan
  let elapsed := (← IO.monoNanosNow) - started
  let clock := { world.clock with duration := .double (.ofRatio false elapsed 1000000) }
  let ended := runUnder settings (fun _ => Timestamp.ofMilliseconds (clockTime / 1000))
    { world with standardInput := input, clock := clock } words
  let (result, lines) := settle (← attemptFor settings.logPath ended) ended
  appendLog settings.logPath lines
  match result with
  | .error cause =>
    IO.eprintln (cause.report?.getD "The conversions or the log are not available")
    return 1
  | .ok output =>
    IO.print (String.ofList output.out)
    IO.eprint (String.ofList output.err)
    return output.exit.toUInt32

def describe (fault : Settings.Fault) : String :=
  String.ofList fault.name ++ ": " ++ fault.reason.message

end TitleSieve.Program

def main (words : List String) : IO UInt32 := do
  match ← TitleSieve.Program.readSettings with
  | .error faults =>
    for fault in faults do IO.eprintln (TitleSieve.Program.describe fault)
    return 1
  | .ok settings => TitleSieve.Program.runCommand settings (words.map String.toList)
