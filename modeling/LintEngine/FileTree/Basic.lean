import LintEngine.Path.Basic

namespace LintEngine

/-- What stands at a place. A device holds nothing and swallows what is written to it. -/
inductive Node where
  | file (content : ByteArray)
  | directory
  | link (target : Path)
  | device

inductive FileError where
  | notFound
  | notDirectory
  | isDirectory
  | tooManyLinks
  | nameTooLong
  | nulInName
  | notText
deriving DecidableEq, Repr

def FileError.message : FileError → String
  | notFound => "No such file or directory (os error 2)"
  | notDirectory => "Not a directory (os error 20)"
  | isDirectory => "Is a directory (os error 21)"
  | tooManyLinks => "Too many levels of symbolic links (os error 40)"
  | nameTooLong => "File name too long (os error 36)"
  | nulInName => "file name contained an unexpected NUL byte"
  | notText => "stream did not contain valid UTF-8"

abbrev Place := List String

structure FileTree where
  nodes : List (Place × Node)
  workingPlace : Place

namespace FileTree

def node? (tree : FileTree) (place : Place) : Option Node :=
  if place.isEmpty then some .directory else tree.nodes.lookup place

def isDirectoryAt (tree : FileTree) (place : Place) : Bool :=
  match tree.node? place with
  | some .directory => true
  | _ => false

inductive LastName where
  | follow
  | keepLink
  | mayBeMissing
deriving DecidableEq, Repr

def segments (p : Path) : List String :=
  (Path.splitSlashes p.text.toList).map String.ofList

def nameLimit : Nat := 255

def pathLimit : Nat := 4095

def linkLimit : Nat := 40

/-- Walks from a place along the stretches of a path, following at most `links` links. -/
def walkTo (tree : FileTree) (last : LastName) (links : Nat) (place : Place)
    (route : List String) : Except FileError Place :=
  match route with
  | [] => .ok place
  | name :: rest =>
    if !tree.isDirectoryAt place then .error .notDirectory
    else if name = "" || name = "." then walkTo tree last links place rest
    else if name = ".." then walkTo tree last links place.dropLast rest
    else if nameLimit < name.utf8ByteSize then .error .nameTooLong
    else
      match tree.node? (place ++ [name]) with
      | none =>
        if last = .mayBeMissing && rest.isEmpty then .ok (place ++ [name])
        else if last = .mayBeMissing && rest.all (· = "") then .error .isDirectory
        else .error .notFound
      | some (.link target) =>
        if last = .keepLink && rest.isEmpty then .ok (place ++ [name])
        else
          match links with
          | 0 => .error .tooManyLinks
          | links + 1 =>
            walkTo tree last links (if target.isAbsolute then [] else place)
              (segments target ++ rest)
      | some _ => walkTo tree last links (place ++ [name]) rest
termination_by (links, route.length)

def locate (tree : FileTree) (last : LastName) (p : Path) : Except FileError Place :=
  if p.text = "" then .error .notFound
  else if p.text.contains '\x00' then .error .nulInName
  else if pathLimit < p.text.utf8ByteSize then .error .nameTooLong
  else tree.walkTo last linkLimit (if p.isAbsolute then [] else tree.workingPlace) (segments p)

def lookup (tree : FileTree) (p : Path) : Except FileError Node := do
  let place ← tree.locate .follow p
  match tree.node? place with
  | some node => .ok node
  | none => .error .notFound

def isFile (tree : FileTree) (p : Path) : Bool :=
  match tree.lookup p with
  | .ok (.file _) => true
  | _ => false

def isDirectory (tree : FileTree) (p : Path) : Bool :=
  match tree.lookup p with
  | .ok .directory => true
  | _ => false

def exists? (tree : FileTree) (p : Path) : Bool :=
  (tree.lookup p).toBool

def read (tree : FileTree) (p : Path) : Except FileError ByteArray := do
  match ← tree.lookup p with
  | .file content => .ok content
  | .directory => .error .isDirectory
  | _ => .ok ByteArray.empty

def pathOf (place : Place) : Path :=
  ⟨"/" ++ "/".intercalate place⟩

def workingDirectory (tree : FileTree) : Path :=
  pathOf tree.workingPlace

def canonical? (tree : FileTree) (p : Path) : Option Path :=
  match tree.locate .follow p with
  | .ok place => some (pathOf place)
  | .error _ => none

structure Entry where
  path : Path
  isFile : Bool
deriving DecidableEq, Repr

def Node.isFile : Node → Bool
  | .file _ => true
  | _ => false

def below? : Place → Place → Option Place
  | [], place => some place
  | _ :: _, [] => none
  | a :: as, b :: bs => if a = b then below? as bs else none

/-- What lies strictly below a directory, in spellings that continue `start`. -/
def entriesBelow (tree : FileTree) (start : Path) (place : Place) : List Entry :=
  tree.nodes.filterMap fun (other, node) =>
    match below? place other with
    | none => none
    | some [] => none
    | some names =>
      some ⟨names.foldl (fun p name => p.join ⟨name⟩) start, Node.isFile node⟩

/-- All entries at and below a path. Only a link at the start is followed, and that entry is still
a link. A walk goes on below a directory however long the path has become. -/
def walk (tree : FileTree) (start : Path) : List Entry :=
  match tree.locate .keepLink start with
  | .error _ => []
  | .ok place =>
    match tree.node? place with
    | none => []
    | some (.link _) =>
      match tree.locate .follow start with
      | .error _ => []
      | .ok target => ⟨start, false⟩ ::
          (if tree.isDirectoryAt target then tree.entriesBelow start target else [])
    | some .directory => ⟨start, false⟩ :: tree.entriesBelow start place
    | some node => [⟨start, Node.isFile node⟩]

def setNode (tree : FileTree) (place : Place) (node : Node) : FileTree :=
  { tree with nodes := tree.nodes.filter (fun entry => entry.1 ≠ place) ++ [(place, node)] }

def add (tree : FileTree) (place : Place) (node : Node) : FileTree :=
  let ancestors := (List.range place.length).map fun n => place.take n
  let tree := ancestors.foldl (fun tree a =>
    if (tree.node? a).isSome then tree else tree.setNode a .directory) tree
  if place.isEmpty then tree else tree.setNode place node

def create (tree : FileTree) (p : Path) : Except FileError (FileTree × Place) := do
  let place ← tree.locate .mayBeMissing p
  match tree.node? place with
  | some .directory => .error .isDirectory
  | some .device => .ok (tree, place)
  | _ => .ok (tree.setNode place (.file ByteArray.empty), place)

def overwrite (content data : ByteArray) (offset : Nat) : ByteArray :=
  let start := content.extract 0 offset
  let gap := ByteArray.mk (Array.replicate (offset - start.size) 0)
  start ++ gap ++ data ++ content.extract (offset + data.size) content.size

def writeAt (tree : FileTree) (place : Place) (offset : Nat) (data : ByteArray) : FileTree :=
  match tree.node? place with
  | some (.file content) => tree.setNode place (.file (overwrite content data offset))
  | _ => tree

end FileTree

end LintEngine
