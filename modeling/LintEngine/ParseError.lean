import LintEngine.Location
import LintEngine.Path.Basic
import LintEngine.Text.Quoted

namespace LintEngine

structure ParseError where
  message : String
  path : Option Path
  range : Option SourceRange
deriving DecidableEq, Repr

namespace ParseError

def display (e : ParseError) : String :=
  match e.range with
  | some r => s!"{e.message} on line {r.first.line}, column {r.first.column}"
  | none => e.message

def withPath (e : ParseError) (path : Path) : ParseError :=
  if e.path.isSome then e else { e with path := some path }

def locationDetails (l : Location) : String :=
  s!"Location \x7b line: {l.line}, column: {l.column} \x7d"

def rangeDetails (r : SourceRange) : String :=
  "SourceRange \x7b begin: " ++ locationDetails r.first ++ ", end: " ++ locationDetails r.last ++
    " \x7d"

def optionDetails : Option String → String
  | some text => "Some(" ++ text ++ ")"
  | none => "None"

def details (e : ParseError) : String :=
  "ParseError \x7b message: " ++ Text.quoted e.message ++
    ", path: " ++ optionDetails (e.path.map fun p => Text.quoted p.text) ++
    ", source_range: " ++ optionDetails (e.range.map rangeDetails) ++ " \x7d"

end ParseError

end LintEngine
