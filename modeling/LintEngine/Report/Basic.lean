import LintEngine.Configuration.Basic
import LintEngine.Lint

namespace LintEngine

/-- What each severity leads to. -/
structure SeverityTable where
  actions : List (String × String)
deriving DecidableEq, Repr

namespace SeverityTable

def failAction : String := "fail"

def warnAction : String := "warn"

def default : SeverityTable :=
  ⟨[("error", failAction), ("warning", warnAction)]⟩

def ofConfiguration (c : Configuration) : SeverityTable :=
  match (c.get? "severities").bind Value.asMap? with
  | some table => ⟨table.filterMap fun (severity, action) =>
      action.asString?.map fun action => (severity, action)⟩
  | none => default

def action? (t : SeverityTable) (s : Severity) : Option String :=
  t.actions.lookup s.name

def isFailure (t : SeverityTable) (s : Severity) : Bool :=
  t.action? s = some failAction

def isWarning (t : SeverityTable) (s : Severity) : Bool :=
  t.action? s = some warnAction

end SeverityTable

structure Report where
  lints : List Lint
  documents : List Path
  severities : SeverityTable
deriving DecidableEq, Repr

namespace Report

def make (lints : List Lint) (documents : List Path) (severities : SeverityTable) : Report :=
  ⟨Lint.sort lints, documents, severities⟩

def failures (r : Report) : List Lint :=
  r.lints.filter fun lint => r.severities.isFailure lint.severity

def warnings (r : Report) : List Lint :=
  r.lints.filter fun lint => r.severities.isWarning lint.severity

def hasFailures (r : Report) : Bool :=
  !r.failures.isEmpty

def hasWarnings (r : Report) : Bool :=
  !r.warnings.isEmpty

def isSuccess (r : Report) : Bool :=
  r.lints.isEmpty

/-- Neighbouring lints about the same file, under the path of the first of them. -/
def groupByPath : List Lint → List (Path × List Lint)
  | [] => []
  | lint :: rest =>
    match groupByPath rest with
    | (path, lints) :: more =>
      if lint.path.same path then (lint.path, lint :: lints) :: more
      else (lint.path, [lint]) :: (path, lints) :: more
    | [] => [(lint.path, [lint])]

def groups (r : Report) : List (Path × List Lint) :=
  groupByPath r.lints

end Report

end LintEngine
