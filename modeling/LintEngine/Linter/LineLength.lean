import LintEngine.Linter.Line

namespace LintEngine.LineLength

def remarks (max : Nat) (line : String) : List Remark :=
  if max < line.length then
    [⟨some (UInt32.ofNat max + 1), s!"Line is too long. [{line.length}/{max}]"⟩]
  else []

def scan (max : Nat) (document : Document) : Scan :=
  .byLine (remarks max) document

def descriptor : Except Error Descriptor :=
  Descriptor.build "LineLength" "Checks that lines do not exceed a maximum length."
    [("max", ⟨.integer, some (.int 80), "Maximum number of characters per line"⟩)]
    fun settings => do
      let max ← settings.unsigned "max"
      .ok (scan max)

end LintEngine.LineLength
