import LintEngine.Linter.Line

namespace LintEngine.TrailingWhitespace

def keptSize (line : String) : Nat :=
  (String.ofList (Text.dropTrailingBlanks line.toList)).utf8ByteSize

def remarks (line : String) : List Remark :=
  if keptSize line = line.utf8ByteSize then []
  else [⟨columnAt? line (keptSize line), "Line contains trailing whitespace"⟩]

def scan (document : Document) : Scan :=
  .byLine remarks document

def descriptor : Except Error Descriptor :=
  Descriptor.build "TrailingWhitespace" "Checks for whitespace at the end of lines." []
    fun _ => .ok scan

end LintEngine.TrailingWhitespace
