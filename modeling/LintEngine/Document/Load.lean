import LintEngine.Application
import LintEngine.Document.Preprocess
import LintEngine.Search

namespace LintEngine

/-- What a run finds around it: a file tree and a way to run commands. -/
structure World where
  tree : FileTree
  command : CommandRunner

structure SourceFiles where
  files : List FileToLint
  undecodable : List (Path × ParseError)

structure LoadedDocuments where
  documents : List Document
  lints : List Lint

namespace SourceFiles

def encodingError (path : Path) (fault : Text.EncodingFault) : ParseError :=
  ⟨"invalid UTF-8: " ++ fault.message, some path, some .start⟩

def read (tree : FileTree) : List Path → Except Error SourceFiles
  | [] => .ok ⟨[], []⟩
  | path :: rest =>
    match tree.read path with
    | .error reason => .error (.unreadableFile path reason)
    | .ok bytes => do
      let more ← read tree rest
      match Text.decode bytes with
      | .ok content => .ok { more with files := ⟨path, content⟩ :: more.files }
      | .error fault =>
        .ok { more with undecodable := (path, encodingError path fault) :: more.undecodable }

def extensions (a : Application) (c : Configuration) : Except Error (List String) :=
  if c.contains "file_extensions" then c.strings "file_extensions" else .ok a.fileExtensions

/-- The patterns that count: as configured, or else those for the extensions if no paths are
given. -/
def patterns (c : Configuration) (extensions includedPaths : List String) :
    Except Error (List String) :=
  if (c.get? "include").all Value.isNull then
    .ok (if includedPaths.isEmpty then
      extensions.map fun extension => "**/*." ++ Search.dropDots extension
    else [])
  else c.strings "include"

def search (a : Application) (c : Configuration) (options : RunOptions) : Except Error Search := do
  let extensions ← extensions a c
  let includedPaths ←
    if options.includedPaths.isEmpty then c.strings "included_paths"
    else .ok options.includedPaths
  let excludedPaths ← c.strings "excluded_paths"
  let includedPatterns ← patterns c extensions includedPaths
  let excludedPatterns ← c.strings "exclude"
  .ok ⟨includedPaths, excludedPaths ++ options.excludedPaths, includedPatterns, excludedPatterns,
    extensions⟩

def find (a : Application) (c : Configuration) (options : RunOptions) (tree : FileTree) :
    Except Error SourceFiles :=
  match options.standardInput with
  | some input => .ok ⟨[⟨input.path, input.content⟩], []⟩
  | none => do
    let search ← search a c options
    let paths ← search.find tree
    read tree paths

def prepare (a : Application) (c : Configuration) (options : RunOptions) (tree : FileTree) :
    Except Error (SourceFiles × Preprocessor) := do
  let sources ← find a c options tree
  let preprocessor ← Preprocessor.ofConfiguration c
  .ok (sources, preprocessor)

def load (a : Application) (c : Configuration) (options : RunOptions) (world : World) :
    FileTree × Except Error SourceFiles :=
  match prepare a c options world.tree with
  | .error e => (world.tree, .error e)
  | .ok (sources, preprocessor) =>
    let done := preprocessor.process world.command world.tree sources.files
    (done.tree, done.outcome.map fun _ => { sources with files := done.files })

def paths (s : SourceFiles) : List Path :=
  (s.files.map (·.path) ++ s.undecodable.map (·.1)).mergeSort fun p q => (p.compare q).isLE

def failureLint (severity : Severity) (path : Path) (e : ParseError) : Lint :=
  { linter := none
    path := path
    range := e.range.getD .start
    message := s!"Error occurred while parsing {path.text}: {e.message}"
    severity := severity
    exception := some (.unparsable e) }

def parseFiles (parser : Parser) (c : Configuration) (severity : Severity) :
    List FileToLint → LoadedDocuments
  | [] => ⟨[], []⟩
  | file :: rest =>
    let more := parseFiles parser c severity rest
    match Document.parse parser c (some file.path) file.content with
    | .ok document => { more with documents := document :: more.documents }
    | .error e => { more with lints := failureLint severity file.path e :: more.lints }

def parse (s : SourceFiles) (parser : Parser) (c : Configuration) : LoadedDocuments :=
  let severity := c.severity "parse_exception_severity" .error
  let parsed := parseFiles parser c severity s.files
  { parsed with
    lints := s.undecodable.map (fun (path, e) => failureLint severity path e) ++ parsed.lints }

end SourceFiles

end LintEngine
