namespace LintEngine

/-- A path as it is written. Every path is a text. -/
structure Path where
  text : String
deriving DecidableEq, Repr, Inhabited

namespace Path

inductive Component where
  | root
  | current
  | parent
  | name (s : String)
deriving DecidableEq, Repr

namespace Component

def text : Component → String
  | root => "/"
  | current => "."
  | parent => ".."
  | name s => s

def rank : Component → Nat
  | root => 0
  | current => 1
  | parent => 2
  | name _ => 3

def compare : Component → Component → Ordering
  | name a, name b => Ord.compare a b
  | a, b => Ord.compare a.rank b.rank

end Component

/-- A text cut at its slashes; there is one part more than there are slashes. -/
def splitSlashes : List Char → List (List Char)
  | [] => [[]]
  | c :: rest =>
    if c = '/' then [] :: splitSlashes rest
    else
      match splitSlashes rest with
      | part :: parts => (c :: part) :: parts
      | [] => [[c]]

structure Piece where
  text : String
  component : Option Component
deriving DecidableEq, Repr

def Piece.ofText (s : String) : Piece :=
  ⟨s, if s = "" || s = "." then none else if s = ".." then some .parent else some (.name s)⟩

/-- The first stretch of a path, where an empty one marks the root if more follows. -/
def Piece.ofFirst (s : String) (more : Bool) : Piece :=
  if s = "" && more then ⟨s, some .root⟩
  else if s = "." then ⟨s, some .current⟩
  else Piece.ofText s

def pieces (p : Path) : List Piece :=
  match (splitSlashes p.text.toList).map String.ofList with
  | [] => []
  | s :: rest => Piece.ofFirst s (!rest.isEmpty) :: rest.map Piece.ofText

def components (p : Path) : List Component :=
  p.pieces.filterMap (·.component)

def isAbsolute (p : Path) : Bool :=
  p.text.toList.head? == some '/'

def same (p q : Path) : Bool :=
  p.components == q.components

def compareComponents : List Component → List Component → Ordering
  | [], [] => .eq
  | [], _ :: _ => .lt
  | _ :: _, [] => .gt
  | a :: as, b :: bs => (a.compare b).then (compareComponents as bs)

def compare (p q : Path) : Ordering :=
  compareComponents p.components q.components

def startsWith (p base : Path) : Bool :=
  base.components.isPrefixOf p.components

def ofPieces : List Piece → Path
  | [⟨_, some .root⟩] => ⟨"/"⟩
  | pieces => ⟨"/".intercalate (pieces.map (·.text))⟩

def trimStart (pieces : List Piece) : List Piece :=
  pieces.dropWhile (·.component.isNone)

def trimEnd (pieces : List Piece) : List Piece :=
  (trimStart pieces.reverse).reverse

def dropComponents : Nat → List Piece → List Piece
  | 0, pieces => pieces
  | _, [] => []
  | n + 1, piece :: rest =>
    if piece.component.isSome then dropComponents n rest else dropComponents (n + 1) rest

def strip? (p base : Path) : Option Path :=
  if p.startsWith base then
    some (ofPieces (trimEnd (trimStart (dropComponents base.components.length p.pieces))))
  else none

def parent? (p : Path) : Option Path :=
  match trimStart p.pieces.reverse with
  | [] => none
  | ⟨_, some .root⟩ :: _ => none
  | _ :: before => some (ofPieces (trimStart before).reverse)

/-- The path and all that are left by dropping last components, longest first. The number bounds
how many are dropped. -/
def ancestorsUpTo : Nat → Path → List Path
  | 0, p => [p]
  | n + 1, p =>
    match p.parent? with
    | some q => p :: ancestorsUpTo n q
    | none => [p]

def ancestors (p : Path) : List Path :=
  ancestorsUpTo (p.components.length + 1) p

/-- The path of `q` seen from `p`; an absolute `q` stands for itself. -/
def join (p q : Path) : Path :=
  if q.isAbsolute then q
  else if p.text = "" || p.text.endsWith "/" then ⟨p.text ++ q.text⟩
  else ⟨p.text ++ "/" ++ q.text⟩

def ofComponents (components : List Component) : Path :=
  components.foldl (fun p c => p.join ⟨c.text⟩) ⟨""⟩

def fileName? (p : Path) : Option String :=
  match p.components.getLast? with
  | some (.name s) => some s
  | _ => none

def extensionOf? (fileName : String) : Option String :=
  let reversed := fileName.toList.reverse
  match reversed.dropWhile (· ≠ '.') with
  | [] => none
  | [_] => none
  | _ :: _ :: _ => some (String.ofList (reversed.takeWhile (· ≠ '.')).reverse)

def extension? (p : Path) : Option String :=
  p.fileName?.bind extensionOf?

/-- The path without leading `.`, unless nothing else is in it. -/
def normalize (p : Path) : Path :=
  match p.strip? ⟨"."⟩ with
  | some rest => if rest.text = "" then p else rest
  | none => p

/-- The other spelling of a path with respect to a directory: an absolute path as seen from there,
if it lies below, and a relative one as seen from the root. -/
def otherSpelling? (p workingDirectory : Path) : Option Path :=
  if p.isAbsolute then p.strip? workingDirectory else some (workingDirectory.join p)

/-- The path seen from the root, without redundant stretches. A slash at the end stays, and so do
exactly two at the start. The empty path has no such form. -/
def absolute? (p workingDirectory : Path) : Option Path :=
  if p.text = "" then none
  else
    let components := ((p.strip? ⟨"."⟩).getD p).components
    let body :=
      if p.isAbsolute then
        if p.text.startsWith "//" && !p.text.startsWith "///" then
          components.tail.foldl (fun q c => q.join ⟨c.text⟩) ⟨"//"⟩
        else ofComponents components
      else components.foldl (fun q c => q.join ⟨c.text⟩) workingDirectory
    some (if p.text.endsWith "/" then body.join ⟨""⟩ else body)

end Path

end LintEngine
