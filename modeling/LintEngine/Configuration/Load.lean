import LintEngine.Configuration.Basic

namespace LintEngine.Configuration

def readText (tree : FileTree) (path : Path) : Except FileError String := do
  let bytes ← tree.read path
  match Text.decode bytes with
  | .ok text => .ok text
  | .error _ => .error .notText

def load (tree : FileTree) (path : Path) : Except Error Configuration :=
  match readText tree path with
  | .error reason => .error (.unreadableConfiguration path reason)
  | .ok text =>
    match ofText path text with
    | .ok c => .ok { c with path := some path }
    | .error fault => .error (.malformedConfiguration path fault)

/-- The first file with one of the names in a directory or the closest directory above it. -/
def discover (tree : FileTree) (start : Path) (names : List String) : Option Path :=
  (start.ancestors.flatMap fun dir => names.map fun name => dir.join ⟨name⟩).find? tree.isFile

end LintEngine.Configuration
