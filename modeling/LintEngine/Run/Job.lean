import LintEngine.Linter.Basic
import LintEngine.Run.Event

namespace LintEngine

open Number

structure JobSettings where
  exceptionSeverity : Severity
  limit : Option Duration
deriving DecidableEq, Repr

structure ScheduledJob where
  job : Job
  linter : Instance

namespace ScheduledJob

def exceeds (limit : Duration) (scan : Scan) : Bool :=
  limit.nanoseconds < (Duration.ofMilliseconds scan.elapsed).nanoseconds

/-- Runs the linter on a document, within the limit if there is one. -/
def scan (s : ScheduledJob) (settings : JobSettings) (document : Document) :
    Except Exception (List Lint) :=
  match settings.limit with
  | none => (s.linter.run document).1
  | some limit =>
    if exceeds limit (s.linter.scan document) then .error (.timedOut limit)
    else (s.linter.run document).1

def failureLint (job : Job) (settings : JobSettings) (e : Exception) : Lint :=
  { linter := some job.linter
    path := job.path
    range := .start
    message := s!"Error occurred while linting {job.path.text}: {e.display}"
    severity := settings.exceptionSeverity
    exception := some e }

def lints (s : ScheduledJob) (settings : JobSettings) (document : Document) : List Lint :=
  match s.scan settings document with
  | .ok lints => lints
  | .error e => [failureLint s.job settings e]

end ScheduledJob

end LintEngine
