import LintEngine.Number.Duration
import LintEngine.ParseError
import LintEngine.Severity

namespace LintEngine

open Number

/-- What made a lint necessary that is not a finding: a linter failed, broke off, took too long or
was lost, or the file could not be parsed. -/
inductive Exception where
  | failed (message : String)
  | panicked (message : String)
  | timedOut (limit : Duration)
  | disconnected
  | unparsable (e : ParseError)
deriving DecidableEq, Repr

namespace Exception

def display : Exception → String
  | failed message => message
  | panicked message => "linter panicked: " ++ message
  | timedOut limit => "timed out after " ++ limit.secondsText ++ " seconds"
  | disconnected => "worker thread exited without reporting a result"
  | unparsable e => e.display

def details : Exception → String
  | failed message => Text.quoted message
  | panicked message => "Panicked(" ++ Text.quoted message ++ ")"
  | timedOut limit => "TimedOut(" ++ limit.describe ++ ")"
  | disconnected => "Disconnected"
  | unparsable e => e.details

end Exception

structure Lint where
  linter : Option String
  path : Path
  range : SourceRange
  message : String
  severity : Severity
  exception : Option Exception
deriving DecidableEq, Repr

namespace Lint

def compare (a b : Lint) : Ordering :=
  (a.path.compare b.path).then (Ord.compare a.range.first.line b.range.first.line)

def sort (lints : List Lint) : List Lint :=
  lints.mergeSort fun a b => (a.compare b).isLE

end Lint

end LintEngine
