import LintEngine.Report.Formatter

namespace LintEngine.Checkstyle

def escapeChar (c : Char) : String :=
  if c = '&' then "&amp;"
  else if c = '<' then "&lt;"
  else if c = '>' then "&gt;"
  else if c = '"' then "&quot;"
  else if c = '\'' then "&apos;"
  else if c = '\n' then "&#10;"
  else c.toString

def escape (text : String) : String :=
  String.join (text.toList.map escapeChar)

def absolute (workingDirectory path : Path) : String :=
  ((path.absolute? workingDirectory).getD path).text

def errorElement (lint : Lint) : String :=
  let line := lint.range.first.line
  let column := lint.range.first.column
  "    <error source=\"" ++ escape (lint.linter.getD "") ++
    s!"\" line=\"{line}\" column=\"{column}\" severity=\"" ++ escape lint.severity.name ++
    "\" message=\"" ++ escape lint.message ++ "\" />\n"

def fileElement (workingDirectory : Path) (group : Path × List Lint) : String :=
  "  <file name=\"" ++ escape (absolute workingDirectory group.1) ++ "\">\n" ++
    String.join (group.2.map errorElement) ++ "  </file>\n"

def document (workingDirectory : Path) (r : Report) : String :=
  "<?xml version=\"1.0\" encoding=\"utf-8\"?>\n<checkstyle version=\"1.5.6\">\n" ++
    String.join (r.groups.map (fileElement workingDirectory)) ++ "</checkstyle>\n"

def write (context : FormatterContext) (_ : Bool) : Event → String
  | .finished report => document context.workingDirectory report
  | _ => ""

def formatter : Formatter := ⟨write⟩

end LintEngine.Checkstyle
