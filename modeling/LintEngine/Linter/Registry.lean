import LintEngine.Linter.Basic

namespace LintEngine

structure Descriptor where
  name : String
  description : String
  schema : Schema
  setUp : Settings → Except Error (Document → Scan)

namespace Descriptor

def build (name description : String) (options : List (String × OptionSpec))
    (setUp : Settings → Except Error (Document → Scan)) : Except Error Descriptor :=
  if name = "" then .error .unnamedLinter
  else do
    let schema ← Schema.ofDeclarations name options
    .ok ⟨name, description, schema, setUp⟩

def validate (d : Descriptor) (raw : Fields) : Except Error Settings :=
  d.schema.validate d.name raw

def instantiate (d : Descriptor) (settings : Settings) : Except Error Instance := do
  let scan ← d.setUp settings
  .ok ⟨d.name, settings, scan, []⟩

end Descriptor

structure Registry where
  linters : List Descriptor

namespace Registry

def empty : Registry := ⟨[]⟩

def get? (r : Registry) (name : String) : Option Descriptor :=
  r.linters.find? fun d => d.name = name

def contains (r : Registry) (name : String) : Bool :=
  (r.get? name).isSome

def names (r : Registry) : List String :=
  r.linters.map (·.name)

def size (r : Registry) : Nat :=
  r.linters.length

def register (r : Registry) (d : Descriptor) : Except Error Registry :=
  if r.contains d.name then .error (.repeatedLinter d.name) else .ok ⟨r.linters ++ [d]⟩

def registerAll (r : Registry) : List Descriptor → Registry × Except Error Unit
  | [] => (r, .ok ())
  | d :: rest =>
    match r.register d with
    | .ok r => r.registerAll rest
    | .error e => (r, .error e)

end Registry

end LintEngine
