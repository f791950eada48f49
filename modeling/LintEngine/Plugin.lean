import LintEngine.Linter.Registry

namespace LintEngine

/-- A plugin. Its linters may turn out not to be describable. -/
structure Plugin where
  name : String
  configurationFile : Option Path
  linters : Except Error (List Descriptor)

namespace Plugin

def registerLinters (p : Plugin) (r : Registry) : Registry × Except Error Unit :=
  match p.linters with
  | .ok linters => r.registerAll linters
  | .error e => (r, .error e)

end Plugin

structure Plugins where
  plugins : List Plugin

namespace Plugins

def empty : Plugins := ⟨[]⟩

def names (ps : Plugins) : List String :=
  ps.plugins.map (·.name)

def get (ps : Plugins) (name : String) : Except Error Plugin :=
  match ps.plugins.find? fun p => p.name = name with
  | some p => .ok p
  | none => .error (.unknownPlugin name)

def register (ps : Plugins) (p : Plugin) : Except Error Plugins :=
  if ps.names.contains p.name then .error (.repeatedPlugin p.name)
  else .ok ⟨ps.plugins ++ [p]⟩

end Plugins

end LintEngine
