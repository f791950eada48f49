import LintEngine.Run.Job

namespace LintEngine

structure JobResult where
  job : Job
  lints : List Lint
deriving DecidableEq, Repr

/-- What a worker does next with the job of a number. -/
inductive WorkerStep where
  | start (number : Nat)
  | finish (number : Nat)
deriving DecidableEq, Repr

abbrev Schedule := List WorkerStep

namespace Schedule

def oneByOne (count : Nat) : Schedule :=
  (List.range count).flatMap fun number => [.start number, .finish number]

end Schedule

def sequentialEvents (results : List JobResult) : List Event :=
  results.flatMap fun r => [.jobStarted r.job, .jobFinished r.job r.lints]

def stepEvent? (results : List JobResult) : WorkerStep → Option Event
  | .start number => (results[number]?).map fun r => .jobStarted r.job
  | .finish number => (results[number]?).map fun r => .jobFinished r.job r.lints

def scheduledEvents (results : List JobResult) (schedule : Schedule) : List Event :=
  schedule.filterMap (stepEvent? results)

abbrev Delivered := List (Nat × JobResult)

def deliver (results : List JobResult) (delivered : Delivered) : WorkerStep → Delivered
  | .start _ => delivered
  | .finish number =>
    match results[number]? with
    | some r => delivered ++ [(number, r)]
    | none => delivered

def collectLints (count : Nat) (delivered : Delivered) : List Lint :=
  (List.range count).flatMap fun number =>
    match delivered.lookup number with
    | some r => r.lints
    | none => []

def scheduledLints (results : List JobResult) (schedule : Schedule) : List Lint :=
  collectLints results.length (schedule.foldl (deliver results) [])

end LintEngine
