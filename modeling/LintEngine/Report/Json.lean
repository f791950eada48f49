import LintEngine.Report.Formatter
import LintEngine.Value.Json

namespace LintEngine.ReportJson

def number (n : Nat) : Value := .int n

def locationValue (l : Location) : Value :=
  .map [("line", number l.line.toNat), ("column", number l.column.toNat)]

def offense (lint : Lint) : Value :=
  .map [
    ("severity", .string lint.severity.name),
    ("message", .string lint.message),
    ("line", number lint.range.first.line.toNat),
    ("column", number lint.range.first.column.toNat),
    ("source_range", .map [
      ("begin", locationValue lint.range.first),
      ("end", locationValue lint.range.last)])]

def fileValue (group : Path × List Lint) : Value :=
  .map [("path", .string group.1.text), ("offenses", .array (group.2.map offense))]

def reportValue (context : FormatterContext) (r : Report) : Value :=
  .map [
    ("metadata", .map [
      ("linter_name", .string context.application),
      ("linter_version", .string context.version)]),
    ("files", .array (r.groups.map fileValue)),
    ("summary", .map [
      ("offense_count", number r.lints.length),
      ("offending_file_count", number r.groups.length),
      ("inspected_file_count", number r.documents.length)])]

def write (context : FormatterContext) (_ : Bool) : Event → String
  | .finished report => (reportValue context report).pretty 0 ++ "\n"
  | _ => ""

def formatter : Formatter := ⟨write⟩

end LintEngine.ReportJson
