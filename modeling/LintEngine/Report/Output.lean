import LintEngine.Report.Checkstyle
import LintEngine.Report.Json
import LintEngine.Report.Plain
import LintEngine.Text.Ascii

namespace LintEngine

inductive Destination where
  | standardOutput
  | file (path : Path)
deriving DecidableEq, Repr

structure FormatterRequest where
  name : String
  destination : Destination
deriving DecidableEq, Repr

/-- A formatter that is set up, with the place of its file, if it has one, and how far it has
written there. -/
structure Output where
  formatter : Formatter
  place : Option Place
  offset : Nat

structure Formatters where
  formatters : List (String × Formatter)

namespace Formatters

def defaultName : String := "Default"

def standard : Formatters :=
  ⟨[(defaultName, Plain.formatter), ("Json", ReportJson.formatter),
    ("Checkstyle", Checkstyle.formatter)]⟩

def register (fs : Formatters) (name : String) (f : Formatter) : Formatters :=
  ⟨(fs.formatters.filter fun entry => !Text.sameIgnoringCase entry.1 name) ++ [(name, f)]⟩

def names (fs : Formatters) : List String :=
  (fs.formatters.map (·.1)).mergeSort fun a b => (compare a b).isLE

def get (fs : Formatters) (name : String) : Except Error Formatter :=
  match fs.formatters.find? fun entry => Text.sameIgnoringCase entry.1 name with
  | some (_, f) => .ok f
  | none => .error (.unknownFormatter name fs.names)

def setUp (fs : Formatters) (tree : FileTree) (request : FormatterRequest) :
    Except Error (FileTree × Output) := do
  let f ← fs.get request.name
  match request.destination with
  | .standardOutput => .ok (tree, ⟨f, none, 0⟩)
  | .file path =>
    match tree.create path with
    | .ok (tree, place) => .ok (tree, ⟨f, some place, 0⟩)
    | .error reason => .error (.outputFile path request.name reason)

def openAll (fs : Formatters) (tree : FileTree) :
    List FormatterRequest → FileTree × Except Error (List Output)
  | [] => (tree, .ok [])
  | request :: rest =>
    match fs.setUp tree request with
    | .error e => (tree, .error e)
    | .ok (tree, output) =>
      let (tree, outputs) := fs.openAll tree rest
      (tree, outputs.map (output :: ·))

def load (fs : Formatters) (tree : FileTree) (requests : List FormatterRequest) :
    FileTree × Except Error (List Output) :=
  fs.openAll tree (if requests.isEmpty then [⟨defaultName, .standardOutput⟩] else requests)

end Formatters

structure Emission where
  tree : FileTree
  printed : String
  outputs : List Output
  jobFinished : Bool

namespace Emission

def start (tree : FileTree) (outputs : List Output) : Emission :=
  ⟨tree, "", outputs, false⟩

def write (context : FormatterContext) (jobFinished : Bool) (event : Event)
    (tree : FileTree) (printed : String) (output : Output) : FileTree × String × Output :=
  let text := output.formatter.write context jobFinished event
  match output.place with
  | none => (tree, printed ++ text, output)
  | some place =>
    let bytes := text.toUTF8
    (tree.writeAt place output.offset bytes, printed,
      { output with offset := output.offset + bytes.size })

def writeAll (context : FormatterContext) (jobFinished : Bool) (event : Event)
    (tree : FileTree) (printed : String) : List Output → FileTree × String × List Output
  | [] => (tree, printed, [])
  | output :: rest =>
    let (tree, printed, output) := write context jobFinished event tree printed output
    let (tree, printed, rest) := writeAll context jobFinished event tree printed rest
    (tree, printed, output :: rest)

def emit (context : FormatterContext) (e : Emission) (event : Event) : Emission :=
  let (tree, printed, outputs) := writeAll context e.jobFinished event e.tree e.printed e.outputs
  let jobFinished := match event with
    | .jobFinished _ _ => true
    | _ => e.jobFinished
  ⟨tree, printed, outputs, jobFinished⟩

def emitAll (context : FormatterContext) (e : Emission) (events : List Event) : Emission :=
  events.foldl (emit context) e

end Emission

end LintEngine
