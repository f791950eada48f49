import LintEngine.Glob.Basic
import LintEngine.FileTree.Basic

namespace LintEngine.Glob

def charBytes (c : Char) : List UInt8 :=
  String.utf8EncodeChar c

def slash : UInt8 := 0x2F

def byteRanges (range : Char × Char) : List (UInt8 × UInt8) :=
  if range.1 = range.2 then (charBytes range.1).map fun b => (b, b)
  else
    match (charBytes range.1).reverse, charBytes range.2 with
    | a :: before, b :: after =>
      before.reverse.map (fun b => (b, b)) ++ (a, b) :: after.map fun b => (b, b)
    | _, _ => []

def inRanges (ranges : List (Char × Char)) (b : UInt8) : Bool :=
  (ranges.flatMap byteRanges).any fun r => r.1 ≤ b && b ≤ r.2

def dropLiteral? : List UInt8 → List UInt8 → Option (List UInt8)
  | [], bytes => some bytes
  | _ :: _, [] => none
  | a :: as, b :: bs => if a = b then dropLiteral? as bs else none

def afterStar : List UInt8 → List (List UInt8)
  | [] => [[]]
  | b :: rest => (b :: rest) :: (if b = slash then [] else afterStar rest)

def afterSlashes : List UInt8 → List (List UInt8)
  | [] => []
  | b :: rest => if b = slash then rest :: afterSlashes rest else afterSlashes rest

def tails : List UInt8 → List (List UInt8)
  | [] => [[]]
  | b :: rest => (b :: rest) :: tails rest

mutual
/-- Whether a part stands for nothing, as a group without any part does. -/
def Token.isVacuous (t : Token) : Bool :=
  match t with
  | .alternatives branches => allVacuous branches
  | _ => false
termination_by structural t
def vacuousBranch (tokens : List Token) : Bool :=
  match tokens with
  | [] => true
  | t :: rest => t.isVacuous && vacuousBranch rest
termination_by structural tokens
def allVacuous (branches : List (List Token)) : Bool :=
  match branches with
  | [] => true
  | b :: rest => vacuousBranch b && allVacuous rest
termination_by structural branches
end

mutual
/-- What can be left of a text after a part has matched at its head. -/
def Token.rests (t : Token) (bytes : List UInt8) : List (List UInt8) :=
  match t with
  | .literal c => (dropLiteral? (charBytes c) bytes).toList
  | .any =>
    match bytes with
    | b :: rest => if b = slash then [] else [rest]
    | [] => []
  | .star => afterStar bytes
  | .leadingDirectories => bytes :: afterSlashes bytes
  | .everythingBelow =>
    match bytes with
    | b :: rest => if b = slash then tails rest else []
    | [] => []
  | .directoriesBetween =>
    match bytes with
    | b :: rest => if b = slash then rest :: afterSlashes rest else []
    | [] => []
  | .oneOf negated ranges =>
    match bytes with
    | b :: rest => if inRanges ranges b != negated then [rest] else []
    | [] => []
  | .alternatives branches =>
    if allVacuous branches then [bytes] else branchRests branches bytes
termination_by structural t
def tokenRests (tokens : List Token) (texts : List (List UInt8)) : List (List UInt8) :=
  match tokens with
  | [] => texts
  | t :: rest => tokenRests rest (texts.flatMap fun bytes => t.rests bytes).eraseDups
termination_by structural tokens
/-- What can be left after one of several branches has matched; a branch that stands for nothing
does not take part. -/
def branchRests (branches : List (List Token)) (bytes : List UInt8) : List (List UInt8) :=
  match branches with
  | [] => []
  | b :: rest =>
    (if vacuousBranch b then [] else tokenRests b [bytes]) ++ branchRests rest bytes
termination_by structural branches
end

def Token.isLiteral : Token → Bool
  | .literal _ => true
  | _ => false

def Token.isChar (c : Char) : Token → Bool
  | .literal d => c = d
  | _ => false

def decidedByName (tokens : List Token) : Bool :=
  match tokens with
  | .leadingDirectories :: rest => !(rest.all Token.isLiteral && rest.any (Token.isChar '/'))
  | _ => !tokens.all Token.isLiteral

def endsAtParent (bytes : List UInt8) : Bool :=
  bytes.reverse.takeWhile (· ≠ slash) = [0x2E, 0x2E]

/-- Whether the parts match the bytes as a whole. A pattern that ends with a dot and is decided by
a name does not match where there is none. -/
def matchesBytes (tokens : List Token) (bytes : List UInt8) : Bool :=
  match tokens with
  | [.leadingDirectories] => true
  | _ =>
    if decidedByName tokens && tokens.getLast?.any (Token.isChar '.') && endsAtParent bytes then
      false
    else (tokenRests tokens [bytes]).any List.isEmpty

def matchesText (tokens : List Token) (p : Path) : Bool :=
  matchesBytes tokens p.text.toUTF8.toList

/-- Why a list of patterns cannot be read: the first bad one as written and without leading `.`,
and what is wrong with it. -/
structure Fault where
  pattern : String
  normalized : String
  problem : Problem
deriving DecidableEq, Repr

def Fault.message (f : Fault) : String :=
  s!"Invalid glob pattern '{f.pattern}': error parsing glob '{f.normalized}': {f.problem.message}"

def compile (pattern : String) : Except Fault (List Token) :=
  let normalized := (Path.mk pattern).normalize.text
  (parse normalized).mapError fun problem => ⟨pattern, normalized, problem⟩

structure Any where
  globs : List (List Token)

/-- Reads patterns one by one. A set can always be built of patterns that can be read. -/
def Any.compile (patterns : List String) : Except Fault Any :=
  (patterns.mapM Glob.compile).map Any.mk

theorem Any.compile_eq_ok {patterns : List String} {globs : Any} :
    Any.compile patterns = .ok globs ↔ patterns.mapM Glob.compile = .ok globs.globs := by
  unfold Any.compile
  cases patterns.mapM Glob.compile with
  | error fault => exact ⟨nofun, nofun⟩
  | ok compiled =>
    constructor
    · intro h
      cases h
      rfl
    · intro h
      cases h
      rfl

def Any.matchesText (g : Any) (p : Path) : Bool :=
  g.globs.any fun tokens => Glob.matchesText tokens p

/-- Whether a matcher of spellings accepts a file as spelled, less leading `.` components, or in its
other spelling with respect to the working directory. -/
def matchesEither (matcher : Path → Bool) (workingDirectory file : Path) : Bool :=
  let p := file.normalize
  matcher p || (p.otherSpelling? workingDirectory).any matcher

def Any.matchesFile (g : Any) (workingDirectory file : Path) : Bool :=
  matchesEither g.matchesText workingDirectory file

end LintEngine.Glob
