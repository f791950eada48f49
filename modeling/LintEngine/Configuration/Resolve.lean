import LintEngine.Configuration.Load
import LintEngine.Plugin

namespace LintEngine.Configuration

/-- What resolving has come to: a result, and the plugins met on the way, in order. -/
structure Resolution (α : Type) where
  result : Except Error α
  loaded : List String

namespace Resolution

def error {α : Type} (loaded : List String) (e : Error) : Resolution α := ⟨.error e, loaded⟩

def ok {α : Type} (loaded : List String) (a : α) : Resolution α := ⟨.ok a, loaded⟩

def andThen {α β : Type} (r : Resolution α) (f : α → List String → Resolution β) :
    Resolution β :=
  match r.result with
  | .ok a => f a r.loaded
  | .error e => error r.loaded e

end Resolution

/-- The path that stands for a file in a chain. -/
def chainKey (tree : FileTree) (path : Path) : Path :=
  (tree.canonical? path).getD path

def noteLoaded (loaded : List String) (name : String) : List String :=
  if loaded.contains name then loaded else loaded ++ [name]

/-- Lays a configuration over its parents, the later of which lie over the earlier. -/
def overParents (parents : List Configuration) (c : Configuration) : Configuration :=
  match parents with
  | [] => c
  | first :: rest => (rest.foldl merge first).merge c

def withoutDirectives (c : Configuration) : Configuration :=
  (c.erase extendsKey).erase pluginsKey

def resolvePaths (resolveFile : Path → List String → Resolution Configuration) :
    List Path → List String → Resolution (List Configuration)
  | [], loaded => .ok loaded []
  | path :: rest, loaded =>
    (resolveFile path loaded).andThen fun parent loaded =>
      (resolvePaths resolveFile rest loaded).andThen fun parents loaded =>
        .ok loaded (parent :: parents)

def resolvePlugins (tree : FileTree) (plugins : Plugins)
    (resolveFile : Path → List String → Resolution Configuration) :
    List String → List String → Resolution (List Configuration)
  | [], loaded => .ok loaded []
  | name :: rest, loaded =>
    match plugins.get name with
    | .error e => .error loaded e
    | .ok plugin =>
      let loaded := noteLoaded loaded name
      match plugin.configurationFile.filter tree.isFile with
      | none => resolvePlugins tree plugins resolveFile rest loaded
      | some path =>
        (resolveFile path loaded).andThen fun parent loaded =>
          (resolvePlugins tree plugins resolveFile rest loaded).andThen fun parents loaded =>
            .ok loaded (parent :: parents)

def resolveWith (tree : FileTree) (plugins : Plugins)
    (resolveFile : Path → List String → Resolution Configuration)
    (c : Configuration) (extra loaded : List String) : Resolution Configuration :=
  match c.strings extendsKey, c.strings pluginsKey with
  | .error e, _ => .error loaded e
  | .ok _, .error e => .error loaded e
  | .ok files, .ok names =>
    let paths := files.map fun file => c.directory.join ⟨file⟩
    (resolvePaths resolveFile paths loaded).andThen fun parents loaded =>
      (resolvePlugins tree plugins resolveFile (names ++ extra) loaded).andThen fun more loaded =>
        .ok loaded (overParents (parents ++ more) c.withoutDirectives)

/-- Resolves a file below a chain of files. The number bounds the length of the chain, which holds
no file twice. -/
def resolveFile (tree : FileTree) (plugins : Plugins) :
    Nat → List Path → Path → List String → Resolution Configuration
  | 0, chain, path, loaded => .error loaded (.extendsCycle (chain ++ [chainKey tree path]))
  | n + 1, chain, path, loaded =>
    match load tree path with
    | .error e => .error loaded e
    | .ok c =>
      let key := chainKey tree path
      if chain.any key.same then .error loaded (.extendsCycle (chain ++ [key]))
      else resolveWith tree plugins (resolveFile tree plugins n (chain ++ [key])) c [] loaded

def resolve (tree : FileTree) (plugins : Plugins) (c : Configuration) (extra : List String) :
    Resolution Configuration :=
  let chain := (c.path.map (chainKey tree)).toList
  resolveWith tree plugins (resolveFile tree plugins (tree.nodes.length + 2) chain) c extra []

end LintEngine.Configuration
