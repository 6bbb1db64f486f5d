import TitleSieve.Pass.Log

/-!
The logger of passes in the course of a process. It is set up when the first line is to be written:
the directory is made, the logger is registered, and the file is opened. Once registered it is not
set up again, and a registered logger without a file drops its lines.
-/

namespace TitleSieve

inductive Logger where
  | unset
  | registered
  | writing
  deriving DecidableEq, Repr

/-- What succeeds when a line is to be written. -/
structure LogAttempt where
  makesDirectory : Bool
  opensFile : Bool
  deriving DecidableEq, Repr

inductive LogFault where
  | directory
  | file
  deriving DecidableEq, Repr

namespace Logger

def setUp (attempt : LogAttempt) : Logger → Except LogFault Unit × Logger
  | .unset =>
    if !attempt.makesDirectory then (.error .directory, .unset)
    else if !attempt.opensFile then (.error .file, .registered)
    else (.ok (), .writing)
  | logger => (.ok (), logger)

/-- Logs a line: what the call returns, the logger after it, and the lines added to the file. -/
def log (attempt : LogAttempt) (line : Text) (logger : Logger) :
    Except LogFault Unit × Logger × List Text :=
  match logger.setUp attempt with
  | (.error fault, next) => (.error fault, next, [])
  | (.ok (), .writing) => (.ok (), .writing, [line])
  | (.ok (), next) => (.ok (), next, [])

end Logger

end TitleSieve
