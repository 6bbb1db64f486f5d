import TitleSieve.Command.Run
import TitleSieve.Pass.Logger
import TitleSieve.Settings.Basic

/-!
The command as a process with settings of its own. The level from which notices are written is
looked up once the words have been gone through, and the line of a pass is logged before anything is
printed; so a log that cannot be opened leaves a pass that has succeeded unprinted.
-/

namespace TitleSieve.Command

inductive Failure where
  | crash (cause : Crash)
  | unknownLevel (name : Text)
  | log (fault : LogFault)

def Failure.report? : Failure → Option String
  | .crash cause => cause.report?
  | .unknownLevel name => some ("Unknown level: " ++ String.ofList (Text.quoted name))
  | .log _ => none

/-- The world of a process with these settings, whose notices are written from this level on. -/
def World.under (world : World) (settings : Settings) (telling : Option Telling) : World :=
  { world with caching := settings.caching, telling := telling }

/-- Runs the command under these settings; the lines of notices are written at these times. -/
def runUnder (settings : Settings) (time : Nat → Text) (world : World) (words : List Text) :
    Except Failure Output :=
  match optionsOf world (.ofCommandLine words), Level.named? settings.logLevel with
  | .ok _, none => .error (.unknownLevel settings.logLevel)
  | _, least? =>
    (run (world.under settings (least?.map fun least => ⟨least, time⟩)) words).mapError .crash

/-- Logs the line of an output: what the process comes to then, and the lines that the log gets. -/
def settle (attempt : LogAttempt) (ended : Except Failure Output) :
    Except Failure Output × List Text :=
  match ended with
  | .error failure => (.error failure, [])
  | .ok output =>
    match output.line with
    | none => (.ok output, [])
    | some line =>
      match Logger.unset.log attempt line with
      | (.error fault, _, lines) => (.error (.log fault), lines)
      | (.ok (), _, lines) => (.ok output, lines)

def start (settings : Settings) (attempt : LogAttempt) (time : Nat → Text) (world : World)
    (words : List Text) : Except Failure Output × List Text :=
  settle attempt (runUnder settings time world words)

end TitleSieve.Command
