import LintEngine.Error

namespace LintEngine

/-- What to search for. Extensions count for files below included directories. -/
structure Search where
  includedPaths : List String
  excludedPaths : List String
  includedPatterns : List String
  excludedPatterns : List String
  extensions : List String
deriving DecidableEq, Repr

namespace Search

def dropDots (extension : String) : String :=
  String.ofList (extension.toList.dropWhile (· = '.'))

def filesBelow (tree : FileTree) (extensions : List String) (directory : Path) : List Path :=
  ((tree.walk directory).filter fun entry =>
    entry.isFile && entry.path.extension?.any extensions.contains).map fun entry =>
      entry.path.normalize

def filesAt (tree : FileTree) (extensions : List String) (path : Path) :
    Except Error (List Path) :=
  if tree.isFile path then .ok [path]
  else if tree.isDirectory path then .ok (filesBelow tree extensions path)
  else .error (.missingPath path)

def isLiteral (c : Path.Component) : Bool :=
  !c.text.toList.any fun c => c = '*' || c = '?' || c = '[' || c = '\x7b'

def literalStart (pattern : Path) : Path :=
  .ofComponents (pattern.components.takeWhile isLiteral)

def walkStart (pattern : Path) : Path :=
  let start := literalStart pattern
  if start.text = "" then ⟨"."⟩ else start

def compile (patterns : List String) : Except Error Glob.Any :=
  (Glob.Any.compile patterns).mapError .invalidPattern

/-- The entries of a walk that a pattern matches, without leading `.` components. -/
def matchingEntries (tree : FileTree) (globs : Glob.Any) (start : Path) : List FileTree.Entry :=
  ((tree.walk start).map fun entry => { entry with path := entry.path.normalize }).filter
    fun entry => globs.matchesText entry.path

def filesMatching (tree : FileTree) (pattern : String) : Except Error (List Path) := do
  let globs ← compile [pattern]
  let entries := matchingEntries tree globs (walkStart (Path.mk pattern).normalize)
  if entries.isEmpty then .error (.unmatchedPattern pattern)
  else .ok ((entries.filter (·.isFile)).map (·.path))

def checkExcluded (tree : FileTree) (text : String) : Except Error Path :=
  let path := (Path.mk text).normalize
  if tree.exists? path then .ok path else .error (.missingExcludedPath path)

def dropRepeated : List Path → List Path
  | [] => []
  | [p] => [p]
  | p :: q :: rest => if p.same q then dropRepeated (p :: rest) else p :: dropRepeated (q :: rest)

/-- The paths in order, each once, in the spelling that came first. -/
def sortDistinct (paths : List Path) : List Path :=
  dropRepeated (paths.mergeSort fun p q => (p.compare q).isLE)

def isExcluded (tree : FileTree) (paths : List Path) (globs : Glob.Any) (file : Path) : Bool :=
  paths.any file.startsWith || globs.matchesFile tree.workingDirectory file

def find (s : Search) (tree : FileTree) : Except Error (List Path) := do
  let extensions := s.extensions.map dropDots
  let atPaths ← s.includedPaths.mapM fun text =>
    filesAt tree extensions (Path.mk text).normalize
  let matching ← s.includedPatterns.mapM (filesMatching tree)
  let excludedPaths ← s.excludedPaths.mapM (checkExcluded tree)
  let excludedGlobs ← compile s.excludedPatterns
  .ok ((sortDistinct (atPaths.flatten ++ matching.flatten)).filter fun file =>
    !isExcluded tree excludedPaths excludedGlobs file)

end Search

end LintEngine
