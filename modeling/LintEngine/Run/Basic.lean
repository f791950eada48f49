import LintEngine.Document.Load
import LintEngine.Run.Schedule
import LintEngine.Selection

namespace LintEngine

open Number

/-- The events of a run, what it comes to, and the files that its commands leave. -/
structure Run where
  events : List Event
  result : Except Error Report
  tree : FileTree

namespace Run

def failed (tree : FileTree) (events : List Event) (e : Error) : Run := ⟨events, .error e, tree⟩

def timeLimit (c : Configuration) : Except Error (Option Duration) :=
  match c.get? "linter_timeout" with
  | none => .ok none
  | some .null => .ok none
  | some value =>
    match value.asFloat? with
    | some seconds =>
      if seconds.isFinite && 0.0 < seconds then
        match Duration.ofSeconds? seconds with
        | some limit => .ok (some limit)
        | none => .error .timeLimitTooLong
      else .error (.timeLimit value.json)
    | none => .error (.timeLimit value.json)

def jobSettings (c : Configuration) (limit : Option Duration) : JobSettings :=
  ⟨c.severity "linter_exception_severity" .error, limit⟩

def documentPath (document : Document) : Path :=
  document.path.getD ⟨""⟩

def jobsFor (selection : Selection) (workingDirectory : Path) :
    List Path → Except Error (List ScheduledJob)
  | [] => .ok []
  | path :: rest => do
    let linters ← selection.forFile workingDirectory path
    let more ← jobsFor selection workingDirectory rest
    .ok (linters.map (fun l => ⟨⟨path, l.name⟩, l⟩) ++ more)

/-- What a job comes to. There is nothing to do without its document. -/
def perform (settings : JobSettings) (documents : List Document) (s : ScheduledJob) :
    Option JobResult :=
  (documents.find? fun d => (documentPath d).same s.job.path).map fun d =>
    ⟨s.job, s.lints settings d⟩

/-- The rest of a run, when its documents are there. Workers can always be started, and keep to the
schedule for the number of jobs; how many they are shows in the schedule only. -/
def inspect (selection : Selection) (c : Configuration) (settings : JobSettings)
    (concurrency : Option Concurrency) (schedule : Nat → Schedule) (tree : FileTree)
    (files : List Path) (loaded : LoadedDocuments) : Run :=
  let inspected := loaded.documents.map documentPath
  match jobsFor selection tree.workingDirectory inspected with
  | .error e => failed tree [.started files] e
  | .ok jobs =>
    let results := jobs.filterMap (perform settings loaded.documents)
    let (events, lints) :=
      if concurrency.isSome then
        let schedule := schedule results.length
        (scheduledEvents results schedule, scheduledLints results schedule)
      else (sequentialEvents results, results.flatMap (·.lints))
    let report := Report.make (lints ++ loaded.lints) inspected (.ofConfiguration c)
    ⟨.started files :: events ++ [.finished report], .ok report, tree⟩

def start (a : Application) (c : Configuration) (options : RunOptions) (world : World)
    (schedule : Nat → Schedule) : Run :=
  match Selection.make a.linters c options.includedLinters options.excludedLinters with
  | .error e => failed world.tree [] e
  | .ok selection =>
    match timeLimit c with
    | .error e => failed world.tree [] e
    | .ok limit =>
      match SourceFiles.load a c options world with
      | (tree, .error e) => failed tree [] e
      | (tree, .ok sources) =>
        inspect selection c (jobSettings c limit) options.concurrency schedule tree sources.paths
          (sources.parse a.parser c)

end Run

end LintEngine
