import TypedConfig.Settings.Basic
import TypedConfig.Settings.LogFilter
import TypedConfig.Text.Alphanumeric
import TypedConfig.Text.Blank
import TypedConfig.Text.Quoted

/-!
What can be wrong with settings that are complete. Every problem is reported, in the order of the
sections.
-/

namespace TypedConfig

/-- A setting that is not acceptable. -/
inductive Problem where
  | idlePollZero
  | pollIntervalZero
  | marker (marker : Char)
  | namelessVariable
  | logLevel (fault : LogFilter.Fault)
  deriving DecidableEq, Repr

namespace Problem

/-- The setting that has the problem. -/
def field : Problem → String
  | idlePollZero => "watch.idle_poll_ms"
  | pollIntervalZero => "watch.poll_interval_ms"
  | marker _ => "resolver.marker"
  | namelessVariable => "resolver.variables"
  | logLevel _ => "observability.log_level"

/-- The problem in words. -/
def message : Problem → String
  | idlePollZero => "must be greater than 0"
  | pollIntervalZero => "must be greater than 0"
  | marker c => Text.quotedMark c ++ " cannot delimit a variable name"
  | namelessVariable => "variable name " ++ Text.quoted "" ++ " is empty"
  | logLevel fault => fault.message

/-- Problems in words, each with its setting. -/
def summary (problems : List Problem) : String :=
  "Validation failed: " ++
    ", ".intercalate (problems.map fun p => p.field ++ ": " ++ p.message)

end Problem

/-- Whether a character may stand around the name of a variable. -/
def isMarker (c : Char) : Bool :=
  !Text.isAlphanumeric c && !Text.isBlank c && c != '/' && c != '\\'

/-! ### Checking -/

/-- A problem if it is there. -/
def Problem.unless (holds : Bool) (p : Problem) : List Problem := if holds then [] else [p]

/-- What is wrong with settings. -/
def Settings.problems (s : Settings) : List Problem :=
  Problem.unless (s.watch.idlePoll != 0) .idlePollZero ++
  Problem.unless (s.watch.pollInterval != 0) .pollIntervalZero ++
  Problem.unless (isMarker s.resolver.marker) (.marker s.resolver.marker) ++
  Problem.unless (s.resolver.defined.all fun v => v.1 != "") .namelessVariable ++
  ((LogFilter.check s.observability.logLevel.toList).map Problem.logLevel).toList

end TypedConfig
