import LintEngine.Document.Basic
import LintEngine.Lint
import LintEngine.Options.Schema

namespace LintEngine

structure Finding where
  range : SourceRange
  message : String
deriving DecidableEq, Repr

/-- How a scan ends. A panic may come without a text, and a worker may get lost. -/
inductive Ending where
  | done
  | failed (message : String)
  | panicked (message : Option String)
  | lost
deriving DecidableEq, Repr

/-- What happens when a linter scans a document: what it finds before it ends, how it ends, and
how many milliseconds it takes. -/
structure Scan where
  findings : List Finding
  ending : Ending
  elapsed : Nat
deriving DecidableEq, Repr

namespace Scan

def found (findings : List Finding) : Scan :=
  ⟨findings, .done, 0⟩

def quiet : Scan := found []

end Scan

/-- A linter that is set up, with the lints that it has reported and not handed out. -/
structure Instance where
  name : String
  settings : Settings
  scan : Document → Scan
  pending : List Lint

namespace Instance

def lint (i : Instance) (document : Document) (finding : Finding) : Lint :=
  { linter := some i.name
    path := document.path.getD ⟨""⟩
    range := finding.range
    message := finding.message
    severity := i.settings.severity
    exception := none }

def report (i : Instance) (document : Document) (finding : Finding) : Instance :=
  { i with pending := i.pending ++ [i.lint document finding] }

def unknownPanic : String := "unknown panic payload"

/-- Scans a document. Lints of an earlier scan are dropped first, and those of a scan that ends
badly are not handed out. -/
def run (i : Instance) (document : Document) : Except Exception (List Lint) × Instance :=
  let fresh := { i with pending := [] }
  let s := i.scan document
  let scanned := s.findings.foldl (fun i finding => i.report document finding) fresh
  match s.ending with
  | .done => (.ok scanned.pending, { scanned with pending := [] })
  | .failed message => (.error (.failed message), scanned)
  | .panicked message => (.error (.panicked (message.getD unknownPanic)), scanned)
  | .lost => (.error .disconnected, scanned)

end Instance

end LintEngine
