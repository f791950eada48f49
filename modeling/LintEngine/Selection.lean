import LintEngine.Linter.Registry

namespace LintEngine

/-- A linter that runs, with its settings and the patterns that narrow down its files. -/
structure SelectedLinter where
  descriptor : Descriptor
  settings : Settings
  included : Option Glob.Any
  excluded : Glob.Any

namespace SelectedLinter

def compile (linter : String) (list : PatternList) (patterns : List String) :
    Except Error Glob.Any :=
  (Glob.Any.compile patterns).mapError (.linterPattern list linter)

def compileIncluded (linter : String) : Option (List String) → Except Error (Option Glob.Any)
  | none => .ok none
  | some patterns => (compile linter .included patterns).map some

def configure (c : Configuration) (d : Descriptor) : Except Error SelectedLinter := do
  let settings ← d.validate (c.forLinter d.name)
  let included ← compileIncluded d.name settings.included
  let excluded ← compile d.name .excluded settings.excluded
  .ok ⟨d, settings, included, excluded⟩

def appliesTo (s : SelectedLinter) (workingDirectory file : Path) : Bool :=
  s.included.all (·.matchesFile workingDirectory file) &&
    !s.excluded.matchesFile workingDirectory file

end SelectedLinter

structure Selection where
  linters : List SelectedLinter

namespace Selection

def lookUp (r : Registry) (names : List String) : Except Error (List Descriptor) :=
  names.mapM fun name =>
    match r.get? name with
    | some d => .ok d
    | none => .error (.noSuchLinter name)

def isEnabled (c : Configuration) (linter : String) : Bool :=
  match (c.forLinter linter).get? "enabled" with
  | some (.bool b) => b
  | _ => false

def dropSeen (seen : List String) : List Descriptor → List Descriptor
  | [] => []
  | d :: rest =>
    if seen.contains d.name then dropSeen seen rest
    else d :: dropSeen (seen ++ [d.name]) rest

def remaining (included excluded : List Descriptor) : List Descriptor :=
  dropSeen (excluded.map (·.name)) included

def noLinters (requested included : List Descriptor) : Error :=
  if !requested.isEmpty then .requestedExcluded
  else if included.isEmpty then .noneEnabled
  else .enabledExcluded

/-- Selects the requested linters, or else the enabled ones, without the excluded ones. -/
def make (r : Registry) (c : Configuration) (requestedNames excludedNames : List String) :
    Except Error Selection := do
  let requested ← lookUp r requestedNames
  let excluded ← lookUp r excludedNames
  let included :=
    if requested.isEmpty then r.linters.filter fun d => isEnabled c d.name else requested
  let selected := remaining included excluded
  if selected.isEmpty then .error (noLinters requested included)
  else
    let linters ← selected.mapM (SelectedLinter.configure c)
    .ok ⟨linters⟩

def names (s : Selection) : List String :=
  s.linters.map (·.descriptor.name)

def forFile (s : Selection) (workingDirectory file : Path) : Except Error (List Instance) :=
  (s.linters.filter fun l => l.appliesTo workingDirectory file).mapM fun l =>
    l.descriptor.instantiate l.settings

end Selection

end LintEngine
