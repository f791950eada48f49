import LintEngine.CommandLine.Arguments
import LintEngine.CommandLine.Documentation
import LintEngine.CommandLine.Tool
import LintEngine.Run.Basic

namespace LintEngine.CommandLine

structure Result where
  status : Nat
  printed : String
  complaint : String
  tree : FileTree

def failureStatus : Nat := 2

def usageStatus : Nat := 64

def usage : String :=
  "Usage: " ++ Tool.executableName ++ " [OPTIONS] [PATHS]...\n"

def standardInput (a : Arguments) (input : ByteArray) : Except Error (Option StandardInput) :=
  match a.stdinFilePath with
  | none => .ok none
  | some path =>
    match Text.decode input with
    | .ok content => .ok (some ⟨path, content⟩)
    | .error _ => .error .unreadableInput

def runOptions (a : Arguments) (input : ByteArray) : Except Error RunOptions := do
  let standardInput ← standardInput a input
  .ok {
    includedPaths := a.paths.map Path.text
    excludedPaths := a.excludePaths
    includedLinters := a.includeLinters
    excludedLinters := a.excludeLinters
    plugins := a.plugins
    configurationFile := a.config
    concurrency := a.concurrency
    standardInput := standardInput
    debug := a.debug }

def formattersText (app : Application) : String :=
  String.join (app.formatters.names.map fun name => s!" - {name}\n")

def enabledLinters (app : Application) (c : Configuration) (options : RunOptions) :
    Except Error (List String) :=
  match Selection.make app.linters c options.includedLinters options.excludedLinters with
  | .ok selection => .ok selection.names
  | .error e => if e.category = .noLinters then .ok [] else .error e

def lintersText (names enabled : List String) : String :=
  String.join ((names.mergeSort fun a b => (compare a b).isLE).map fun name =>
    let state := if enabled.contains name then "enabled" else "disabled"
    s!" - {name} {state}\n")

def showLinters (app : Application) (a : Arguments) (input : ByteArray) (tree : FileTree) :
    Except Error String := do
  let options ← runOptions a input
  let (app, c) := app.loadConfiguration tree options tree.workingDirectory
  let c ← c
  let enabled ← enabledLinters app c options
  .ok (lintersText app.linters.names enabled)

def showDocs (app : Application) (a : Arguments) (input : ByteArray) (tree : FileTree)
    (linter : Option String) : Except Error String := do
  let options ← runOptions a input
  let (app, c) := app.loadConfiguration tree options tree.workingDirectory
  let _ ← c
  match linter with
  | none => .ok (Documentation.page app.linters.linters)
  | some name =>
    match app.linters.get? name with
    | some d => .ok (Documentation.page [d])
    | none => .error (.noSuchLinter name)

def failure (tree : FileTree) (printed : String) (e : Error) : Result :=
  ⟨e.exitStatus, printed, e.message ++ "\n", tree⟩

def shown (tree : FileTree) : Except Error String → Result
  | .ok text => ⟨0, text, "", tree⟩
  | .error e => failure tree "" e

/-- Runs the linters and tells the formatters. -/
def scan (app : Application) (a : Arguments) (input : ByteArray) (world : World)
    (schedule : Nat → Schedule) : Result :=
  match runOptions a input with
  | .error e => failure world.tree "" e
  | .ok options =>
    match app.loadConfiguration world.tree options world.tree.workingDirectory with
    | (_, .error e) => failure world.tree "" e
    | (app, .ok c) =>
      match app.formatters.load world.tree a.formatterRequests with
      | (tree, .error e) => failure tree "" e
      | (tree, .ok outputs) =>
        let run := Run.start app c options { world with tree := tree } schedule
        let context := app.formatterContext c options.debug tree.workingDirectory
        let emission := (Emission.start run.tree outputs).emitAll context run.events
        match run.result with
        | .error e => failure emission.tree emission.printed e
        | .ok report =>
          ⟨if report.hasFailures then failureStatus else 0, emission.printed, "", emission.tree⟩

def execute (a : Arguments) (input : ByteArray) (world : World) (schedule : Nat → Schedule) :
    Result :=
  match Tool.application with
  | .error e => failure world.tree "" e
  | .ok app =>
    if a.showFormatters then shown world.tree (.ok (formattersText app))
    else if a.showLinters then shown world.tree (showLinters app a input world.tree)
    else
      match a.showDocs with
      | some linter => shown world.tree (showDocs app a input world.tree linter)
      | none => scan app a input world schedule

def run (arguments : List String) (input : ByteArray) (world : World)
    (schedule : Nat → Schedule) : Result :=
  match Arguments.parse arguments with
  | .ok a => execute a input world schedule
  | .error .help => ⟨0, usage, "", world.tree⟩
  | .error .version => ⟨0, Tool.executableName ++ " " ++ Tool.version ++ "\n", "", world.tree⟩
  | .error _ => ⟨usageStatus, "", usage, world.tree⟩

end LintEngine.CommandLine
