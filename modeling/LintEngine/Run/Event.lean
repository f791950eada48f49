import LintEngine.Report.Basic

namespace LintEngine

structure Job where
  path : Path
  linter : String
deriving DecidableEq, Repr

inductive Event where
  | started (files : List Path)
  | jobStarted (job : Job)
  | jobFinished (job : Job) (lints : List Lint)
  | finished (report : Report)
deriving DecidableEq, Repr

end LintEngine
