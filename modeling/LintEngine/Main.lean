import LintEngine.CommandLine.Basic
import LintEngine.Shell.Basic

namespace LintEngine.Executable

def placeOf (text : String) : Place :=
  (FileTree.segments ⟨text⟩).foldl (fun place name =>
    if name = "" || name = "." then place
    else if name = ".." then place.dropLast
    else place ++ [name]) []

def realPath? (text : String) : IO (Option String) := do
  try
    return some (← IO.FS.realPath text).toString
  catch _ => return none

def nowhere : Path := ⟨"/\x00"⟩

/-- Adds what stands at a path, and what lies below if it is a directory. -/
partial def snapshot (tree : FileTree) (text : String) : IO FileTree := do
  match ← realPath? text with
  | none => return tree
  | some real =>
    let here ← IO.FS.realPath text
    if ← here.isDir then
      let mut tree := tree.add (placeOf text) .directory
      for entry in ← here.readDir do
        let path := text ++ "/" ++ entry.fileName
        match ← realPath? path with
        | none => tree := tree.add (placeOf path) (.link nowhere)
        | some target =>
          if target = real ++ "/" ++ entry.fileName then tree ← snapshot tree path
          else tree := tree.add (placeOf path) (.link ⟨target⟩)
      return tree
    else
      return tree.add (placeOf text) (.file (← IO.FS.readBinFile here))

def snapshotAbove (tree : FileTree) (directory : Path) (names : List String) : IO FileTree := do
  let mut tree := tree
  for above in directory.ancestors do
    for name in names do
      let path := (above.join ⟨name⟩).text
      if (← realPath? path).isSome then
        let here ← IO.FS.realPath path
        unless ← here.isDir do
          tree := tree.add (placeOf path) (.file (← IO.FS.readBinFile here))
  return tree

def namedPaths (a : Arguments) (directory : Path) : List Path :=
  let named := a.paths ++ a.excludePaths.map Path.mk ++ a.config.toList ++
    a.outs.filterMap Path.parent?
  (named.map directory.join).filter fun p => !(placeOf directory.text).isPrefixOf (placeOf p.text)

partial def snapshotExtended (app : Application) (options : RunOptions) (directory : Path)
    (tree : FileTree) : IO FileTree := do
  match (app.loadConfiguration tree options directory).2 with
  | .error (.unreadableConfiguration path .notFound) =>
    let text := (directory.join path).text
    let more ← snapshot tree text
    if more.exists? path then snapshotExtended app options directory more else return tree
  | _ => return tree

def world (a : Arguments) : IO World := do
  let directory := (← IO.currentDir).toString
  let start : FileTree := ⟨[], placeOf directory⟩
  let mut tree ← snapshot start directory
  for path in namedPaths a ⟨directory⟩ do
    tree ← snapshot tree path.text
  match Tool.application with
  | .ok app =>
    tree ← snapshotAbove tree ⟨directory⟩ app.configurationFileNames
    match CommandLine.runOptions a ByteArray.empty with
    | .ok options => tree ← snapshotExtended app options ⟨directory⟩ tree
    | .error _ => pure ()
  | .error _ => pure ()
  return ⟨(tree.add ["dev", "null"] .device).add ["tmp"] .directory, Shell.run⟩

def writeOutputs (a : Arguments) (tree : FileTree) : IO Unit := do
  for path in a.outs do
    match tree.lookup path with
    | .ok (.file content) => IO.FS.writeBinFile path.text content
    | _ => pure ()

end LintEngine.Executable

open LintEngine

def main (arguments : List String) : IO UInt32 := do
  let a := (Arguments.parse arguments).toOption.getD .none
  let world ← Executable.world a
  let input ←
    if a.stdinFilePath.isSome then do (← IO.getStdin).readBinToEnd else pure ByteArray.empty
  let result := CommandLine.run arguments input world Schedule.oneByOne
  IO.print result.printed
  IO.eprint result.complaint
  Executable.writeOutputs a result.tree
  return UInt32.ofNat result.status
