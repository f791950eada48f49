import LintEngine.Linter.Registry
import LintEngine.Text.Offset

namespace LintEngine

def columnAt? (line : String) (offset : Nat) : Option UInt32 :=
  (Text.charactersBefore? offset line.toList).map fun n => UInt32.ofNat n + 1

structure Remark where
  column : Option UInt32
  message : String
deriving DecidableEq, Repr

namespace Scan

/-- Reports a remark about the line with the given index. The scan breaks off if there is no
column for it. -/
def report (index : Nat) (remark : Remark) : Scan :=
  match remark.column with
  | some column => found [⟨.single (UInt32.ofNat index + 1) column, remark.message⟩]
  | none => ⟨[], .panicked none, 0⟩

def andThen (s t : Scan) : Scan :=
  match s.ending with
  | .done => ⟨s.findings ++ t.findings, t.ending, s.elapsed + t.elapsed⟩
  | _ => s

def byLine (remarks : String → List Remark) (document : Document) : Scan :=
  (document.lines.zipIdx.flatMap fun x => (remarks x.1).map (report x.2)).foldr andThen quiet

end Scan

end LintEngine
