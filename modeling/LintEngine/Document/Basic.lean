import LintEngine.Configuration.Basic
import LintEngine.ParseError
import LintEngine.Text.Blank
import LintEngine.Text.Lines

namespace LintEngine

structure Document where
  source : String
  lines : List String
  path : Option Path
  words : Option Nat
deriving DecidableEq, Repr

/-- Reads a source before linters do; it may count its words, and it may refuse it. -/
structure Parser where
  name : String
  parse : Configuration → String → Except ParseError (Option Nat)

namespace Parser

def plain : Parser :=
  ⟨"text", fun _ _ => .ok none⟩

def occursIn (needle : List Char) : List Char → Bool
  | [] => needle.isEmpty
  | c :: rest => needle.isPrefixOf (c :: rest) || occursIn needle rest

def counting (refused : Option (String × ParseError)) : Parser :=
  ⟨"words", fun _ source =>
    match refused with
    | some (needle, e) =>
      if occursIn needle.toList source.toList then .error e
      else .ok (some (Text.wordCount source))
    | none => .ok (some (Text.wordCount source))⟩

end Parser

namespace Document

def ofSource (source : String) (path : Option Path) : Document :=
  ⟨source, Text.lines source, path, none⟩

def parse (parser : Parser) (configuration : Configuration) (path : Option Path)
    (source : String) : Except ParseError Document :=
  match parser.parse configuration source with
  | .ok words => .ok ⟨source, Text.lines source, path, words⟩
  | .error e =>
    match path with
    | some p => .error (e.withPath p)
    | none => .error e

end Document

end LintEngine
