import LintEngine.Application
import LintEngine.Linter.BuiltIn

namespace LintEngine.Tool

def executableName : String := "lintrap"

def version : String := "0.1.0"

def baseText : String :=
  "severities:
  error: fail
  warning: warn

linter_exception_severity: error
parse_exception_severity: error

linters:
  LineLength:
    enabled: true
    max: 80

  NoTodo:
    enabled: false
    severity: warning

  TrailingWhitespace:
    enabled: true
"

def base : Except Error Configuration :=
  (Configuration.ofYaml baseText).mapError (.malformedConfiguration ⟨""⟩)

/-- The tool. -/
def application : Except Error Application := do
  let base ← base
  let linters ← builtInLinters
  let draft : ApplicationDraft := {
    name := some "Lintrap"
    executableName := some executableName
    version := some version
    configurationFileNames :=
      some [".lintrap.yaml", ".lintrap.yml", ".lintrap.json", ".lintrap.jsonc"]
    fileExtensions := some ["txt"]
    base := base
    homeUrl := none
    issuesUrl := none
    linters := linters
    plugins := []
    parser := .plain }
  draft.build

end LintEngine.Tool
