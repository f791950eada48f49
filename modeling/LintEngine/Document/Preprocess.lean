import LintEngine.Configuration.Basic
import LintEngine.FileTree.Basic

namespace LintEngine

inductive Completion where
  | notStarted (fault : StartFault)
  | exited (status : Nat) (output : ByteArray)
  | killed

abbrev CommandRunner := FileTree → String → ByteArray → FileTree × Completion

structure FileToLint where
  path : Path
  content : String
deriving DecidableEq, Repr

structure Preprocessed where
  tree : FileTree
  files : List FileToLint
  outcome : Except Error Unit

/-- A command and the files that go through it; all do if no patterns are given. -/
structure Preprocessor where
  command : Option String
  files : Option Glob.Any

namespace Preprocessor

def compileFiles (patterns : List String) : Except Error (Option Glob.Any) :=
  if patterns.isEmpty then .ok none
  else ((Glob.Any.compile patterns).mapError .invalidPattern).map some

def ofConfiguration (c : Configuration) : Except Error Preprocessor := do
  let patterns ← c.strings "preprocess_files"
  let files ← compileFiles patterns
  .ok ⟨c.getString? "preprocess_command", files⟩

def appliesTo (p : Preprocessor) (workingDirectory file : Path) : Bool :=
  p.files.all (·.matchesFile workingDirectory file)

def newContent : Completion → Except CommandFault String
  | .notStarted fault => .error (.notStarted fault)
  | .killed => .error .killed
  | .exited (status + 1) _ => .error (.exited (status + 1))
  | .exited 0 output => (Text.decode output).mapError .notText

/-- Passes the files that it applies to through a command, up to the first failure; the files
before it have their new contents then. -/
def processWith (run : CommandRunner) (workingDirectory : Path) (p : Preprocessor)
    (command : String) : FileTree → List FileToLint → Preprocessed
  | tree, [] => ⟨tree, [], .ok ()⟩
  | tree, file :: rest =>
    if p.appliesTo workingDirectory file.path then
      let (tree, completion) := run tree command file.content.toUTF8
      match newContent completion with
      | .error fault => ⟨tree, file :: rest, .error (.preprocessing command file.path fault)⟩
      | .ok content =>
        let done := processWith run workingDirectory p command tree rest
        { done with files := { file with content := content } :: done.files }
    else
      let done := processWith run workingDirectory p command tree rest
      { done with files := file :: done.files }

def process (run : CommandRunner) (tree : FileTree) (p : Preprocessor)
    (files : List FileToLint) : Preprocessed :=
  match p.command with
  | none => ⟨tree, files, .ok ()⟩
  | some command => processWith run tree.workingDirectory p command tree files

end Preprocessor

end LintEngine
