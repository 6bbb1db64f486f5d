import TitleSieve.Json.Writer
import TitleSieve.Pass.Basic

/-!
The log of passes: one line of JSON for each pass that succeeds. A line tells the rule and the
counts and nothing of the titles; durations are given to three decimal places.
-/

namespace TitleSieve

open Json

/-- What a pass learns from the clock: when it ended, and how long it took in milliseconds, as a
whole number or a double. -/
structure Clock where
  timestamp : Text
  duration : Value

/-- What is logged of a pass. The number of hidden candidates follows from the other two. -/
structure LogEntry where
  rule : Text
  groupCount : Int
  fallbackCount : Int
  total : Int
  visible : Int
  clock : Clock

namespace LogEntry

/-- Doubles are rounded to three decimal places, whole numbers are kept. -/
def roundDuration : Value → Value
  | .double x => .double x.roundThousandths
  | other => other

def fields (entry : LogEntry) : List (String × Value) :=
  [("timestamp", .text entry.clock.timestamp),
   ("rule", .text entry.rule),
   ("group_count", .int entry.groupCount),
   ("regex_fallbacks", .int entry.fallbackCount),
   ("total", .int entry.total),
   ("visible", .int entry.visible),
   ("hidden", .int (entry.total - entry.visible)),
   ("duration_ms", roundDuration entry.clock.duration)]

def line (entry : LogEntry) : Text :=
  (Value.object (entry.fields.map fun (name, value) => (name.toList, value))).write

/-- The entry of a pass; a rule that was not given is logged as empty. -/
def ofPass {H : Type} (raw : Option Text) (pass : Pass H) (clock : Clock) : LogEntry where
  rule := raw.getD []
  groupCount := pass.summary.groupCount
  fallbackCount := pass.summary.fallbackCount
  total := pass.summary.total
  visible := pass.summary.visible
  clock := clock

end LogEntry

def Pass.logLines {H : Type} (clock : Clock) (raw : Option Text)
    (outcome : Except PassFault (Pass H)) : List Text :=
  match outcome with
  | .error _ => []
  | .ok pass => [(LogEntry.ofPass raw pass clock).line]

end TitleSieve
