import LintEngine.Error
import LintEngine.Number.Decimal
import LintEngine.Text.Ascii

namespace LintEngine

open Number

inductive Concurrency where
  | workers (count : Nat)
  | auto
deriving DecidableEq, Repr

namespace Concurrency

def limit : Nat := 0x10000000000000000

def dropPlus : List Char → List Char
  | '+' :: rest => rest
  | text => text

def parse (text : String) : Except Error Concurrency :=
  if Text.sameIgnoringCase text "auto" then .ok auto
  else
    match ofRadix? 10 (dropPlus text.toList) with
    | some n => if 0 < n && n < limit then .ok (workers n) else .error (.invalidConcurrency text)
    | none => .error (.invalidConcurrency text)

end Concurrency

structure StandardInput where
  path : Path
  content : String
deriving DecidableEq, Repr

/-- What a run is told beside its configuration. -/
structure RunOptions where
  includedPaths : List String
  excludedPaths : List String
  includedLinters : List String
  excludedLinters : List String
  plugins : List String
  configurationFile : Option Path
  concurrency : Option Concurrency
  standardInput : Option StandardInput
  debug : Bool
deriving DecidableEq, Repr

def RunOptions.none : RunOptions :=
  ⟨[], [], [], [], [], .none, .none, .none, false⟩

end LintEngine
