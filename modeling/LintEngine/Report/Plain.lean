import LintEngine.Report.Formatter
import LintEngine.Text.Capital

namespace LintEngine.Plain

open Formatter

def progress (severities : SeverityTable) (lints : List Lint) : String :=
  if lints.any fun lint => severities.isFailure lint.severity then "F"
  else if lints.any fun lint => severities.isWarning lint.severity then "W"
  else "."

def severityLetter (s : Severity) : String :=
  match s.name.toList with
  | [] => ""
  | c :: _ => String.ofList (Text.capital c)

def severityField (severities : SeverityTable) (s : Severity) : String :=
  if severities.isFailure s || severities.isWarning s then severityLetter s ++ " " else ""

def linterField : Option String → String
  | some linter => s!"[{linter}] "
  | none => ""

def exceptionField (debug : Bool) : Option Exception → String
  | none => ""
  | some e => if debug then "\n" ++ e.details else " (specify --debug flag to see details)"

def lintLine (context : FormatterContext) (lint : Lint) : String :=
  s!"{lint.path.text}:{lint.range.first.line}:{lint.range.first.column} " ++
    severityField context.severities lint.severity ++ linterField lint.linter ++
    lint.message ++ exceptionField context.debug lint.exception ++ "\n"

def summary (r : Report) : String :=
  counted r.documents.length "file" ++ " inspected" ++
    (if r.hasFailures then ", " ++ counted r.failures.length "failure" ++ " reported" else "") ++
    (if r.hasWarnings then ", " ++ counted r.warnings.length "warning" ++ " reported" else "") ++
    (if r.isSuccess then ", no issues reported" else "") ++ "\n"

def write (context : FormatterContext) (jobFinished : Bool) : Event → String
  | .started files => "Scanning " ++ counted files.length "file" ++ "...\n"
  | .jobStarted _ => ""
  | .jobFinished _ lints => progress context.severities lints
  | .finished report =>
    (if jobFinished then "\n" else "") ++
      String.join (report.lints.map (lintLine context)) ++ "\n" ++ summary report

def formatter : Formatter := ⟨write⟩

end LintEngine.Plain
