import LintEngine.Run.Event

namespace LintEngine

structure FormatterContext where
  application : String
  version : String
  severities : SeverityTable
  debug : Bool
  workingDirectory : Path

/-- Writes a text for each event, which may depend on whether a job has finished before. -/
structure Formatter where
  write : FormatterContext → Bool → Event → String

namespace Formatter

def silent : Formatter := ⟨fun _ _ _ => ""⟩

def counted (count : Nat) (noun : String) : String :=
  if count = 1 then s!"{count} {noun}" else s!"{count} {noun}s"

end Formatter

end LintEngine
