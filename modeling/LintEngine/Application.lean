import LintEngine.Configuration.Resolve
import LintEngine.Report.Output
import LintEngine.Run.Options

namespace LintEngine

/-- A description of an application, in which attributes may be missing. -/
structure ApplicationDraft where
  name : Option String
  executableName : Option String
  version : Option String
  configurationFileNames : Option (List String)
  fileExtensions : Option (List String)
  base : Configuration
  homeUrl : Option String
  issuesUrl : Option String
  linters : List Descriptor
  plugins : List Plugin
  parser : Parser

/-- A linting tool. -/
structure Application where
  name : String
  executableName : String
  version : String
  configurationFileNames : List String
  fileExtensions : List String
  base : Configuration
  homeUrl : Option String
  issuesUrl : Option String
  linters : Registry
  plugins : Plugins
  activated : List String
  formatters : Formatters
  parser : Parser

namespace ApplicationDraft

def required {α : Type} (name : String) : Option α → Except Error α
  | some a => .ok a
  | none => .error (.missingAttribute name)

/-- Makes an application of a description. -/
def build (d : ApplicationDraft) : Except Error Application := do
  let linters ← d.linters.foldlM Registry.register Registry.empty
  let plugins ← d.plugins.foldlM Plugins.register Plugins.empty
  let name ← required "name" d.name
  let executableName ← required "executable_name" d.executableName
  let version ← required "version" d.version
  let configurationFileNames ← required "configuration_file_names" d.configurationFileNames
  let fileExtensions ← required "file_extensions" d.fileExtensions
  .ok {
    name, executableName, version, configurationFileNames, fileExtensions
    base := d.base
    homeUrl := d.homeUrl
    issuesUrl := d.issuesUrl
    linters, plugins
    activated := []
    formatters := .standard
    parser := d.parser }

end ApplicationDraft

namespace Application

/-- The configuration that a run starts from: the file that is asked for, or else the one that is
found, or else none. -/
def ownConfiguration (a : Application) (tree : FileTree) (options : RunOptions)
    (directory : Path) : Except Error Configuration :=
  match options.configurationFile with
  | some path => Configuration.load tree path
  | none =>
    match Configuration.discover tree directory a.configurationFileNames with
    | some path => Configuration.load tree path
    | none => .ok .empty

/-- Activates a plugin, unless it is active. Where its linters clash with others, those before the
clash stay registered. -/
def activate (a : Application) (name : String) : Application × Except Error Unit :=
  if a.activated.contains name then (a, .ok ())
  else
    match a.plugins.get name with
    | .error e => (a, .error e)
    | .ok plugin =>
      match plugin.registerLinters a.linters with
      | (linters, .ok ()) =>
        ({ a with linters := linters, activated := a.activated ++ [name] }, .ok ())
      | (linters, .error e) => ({ a with linters := linters }, .error e)

def activateAll (a : Application) : List String → Application × Except Error Unit
  | [] => (a, .ok ())
  | name :: rest =>
    match a.activate name with
    | (a, .ok ()) => a.activateAll rest
    | (a, .error e) => (a, .error e)

def loadConfiguration (a : Application) (tree : FileTree) (options : RunOptions)
    (directory : Path) : Application × Except Error Configuration :=
  match a.ownConfiguration tree options directory with
  | .error e => (a, .error e)
  | .ok own =>
    let resolution := own.resolve tree a.plugins options.plugins
    match resolution.result with
    | .error e => (a, .error e)
    | .ok c =>
      match a.activateAll resolution.loaded with
      | (a, .ok ()) => (a, .ok (a.base.merge c))
      | (a, .error e) => (a, .error e)

def formatterContext (a : Application) (c : Configuration) (debug : Bool)
    (workingDirectory : Path) : FormatterContext :=
  { application := a.name
    version := a.version
    severities := .ofConfiguration c
    debug := debug
    workingDirectory := workingDirectory }

end Application

end LintEngine
