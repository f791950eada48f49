namespace LintEngine

structure Location where
  line : UInt32
  column : UInt32
deriving DecidableEq, Repr

namespace Location

def text (l : Location) : String :=
  s!"({l.line},{l.column})"

def compare (a b : Location) : Ordering :=
  (Ord.compare a.line b.line).then (Ord.compare a.column b.column)

end Location

structure SourceRange where
  first : Location
  last : Location
deriving DecidableEq, Repr

namespace SourceRange

def single (line column : UInt32) : SourceRange :=
  ⟨⟨line, column⟩, ⟨line, column⟩⟩

def start : SourceRange := single 1 1

def compare (a b : SourceRange) : Ordering :=
  (a.first.compare b.first).then (a.last.compare b.last)

end SourceRange

end LintEngine
