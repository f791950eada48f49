namespace LintEngine.Glob

/-- A part of a pattern. -/
inductive Token where
  | literal (c : Char)
  | any
  | star
  | leadingDirectories
  | everythingBelow
  | directoriesBetween
  | oneOf (negated : Bool) (ranges : List (Char × Char))
  | alternatives (branches : List (List Token))

inductive Problem where
  | unclosedClass
  | invalidRange (first last : Char)
  | unopenedGroup
  | unclosedGroup
  | danglingEscape
deriving DecidableEq, Repr

def Problem.message : Problem → String
  | unclosedClass => "unclosed character class; missing ']'"
  | invalidRange a b => s!"invalid range; '{a}' > '{b}'"
  | unopenedGroup => "unopened alternate group; missing '\x7b' (maybe escape '\x7d' with '[\x7d]'?)"
  | unclosedGroup => "unclosed alternate group; missing '\x7d' (maybe escape '\x7b' with '[\x7b]'?)"
  | danglingEscape => "dangling '\\'"

structure OpenClass where
  negated : Bool
  ranges : List (Char × Char)
  first : Bool
  inRange : Bool

structure OpenGroup where
  before : List Token
  branches : List (List Token)

/-- A pattern being read: the reversed parts of the current branch, the groups around it from the
inside out, the character before, and the class if one is open. -/
structure Builder where
  branch : List Token
  groups : List OpenGroup
  previous : Option Char
  openClass : Option OpenClass

namespace Builder

def start : Builder := ⟨[], [], none, none⟩

def push (b : Builder) (token : Token) (last : Char) : Builder :=
  { b with branch := token :: b.branch, previous := some last }

/-- Puts a recursive part in the place of the slash before it; a recursive part already there
takes it in. -/
def pushRecursive (b : Builder) (token : Token) (last : Char) : Builder :=
  match b.branch with
  | .leadingDirectories :: _ => { b with previous := some last }
  | .everythingBelow :: _ => { b with previous := some last }
  | _ :: rest => { b with branch := token :: rest, previous := some last }
  | [] => { b with branch := [token], previous := some last }

/-- Whether two stars may stand for directories: they follow a slash or, inside of a group, the
start of a branch. -/
def afterSeparator (b : Builder) : Bool :=
  b.previous == some '/' ||
    (!b.groups.isEmpty && (b.previous == some ',' || b.previous == some '\x7b'))

def openGroup (b : Builder) : Builder :=
  { b with branch := [], groups := ⟨b.branch, []⟩ :: b.groups, previous := some '\x7b' }

def closeGroup (b : Builder) : Except Problem Builder :=
  match b.groups with
  | [] => .error .unopenedGroup
  | g :: outer =>
    .ok { b with
      branch := .alternatives (b.branch.reverse :: g.branches).reverse :: g.before
      groups := outer
      previous := some '\x7d' }

def comma (b : Builder) : Builder :=
  match b.groups with
  | [] => b.push (.literal ',') ','
  | g :: outer =>
    { b with
      branch := []
      groups := ⟨g.before, b.branch.reverse :: g.branches⟩ :: outer
      previous := some ',' }

end Builder

namespace OpenClass

def extend (k : OpenClass) (c : Char) : Except Problem OpenClass :=
  match k.ranges with
  | (a, _) :: rest =>
    if c < a then .error (.invalidRange a c)
    else .ok { k with ranges := (a, c) :: rest, first := false, inRange := false }
  | [] => .ok { k with ranges := [(c, c)], first := false, inRange := false }

def addSingle (k : OpenClass) (c : Char) : OpenClass :=
  { k with ranges := (c, c) :: k.ranges, first := false, inRange := false }

def finish (k : OpenClass) : Token :=
  .oneOf k.negated (if k.inRange then ('-', '-') :: k.ranges else k.ranges).reverse

end OpenClass

/-- Reads the rest of a pattern. -/
def parseFrom (b : Builder) : List Char → Except Problem Builder
  | [] => if b.openClass.isSome then .error .unclosedClass else .ok b
  | c :: rest =>
    match b.openClass with
    | some k =>
      if c = ']' && !k.first then
        parseFrom ({ b with openClass := none }.push k.finish ']') rest
      else if c = '-' && !k.first && !k.inRange then
        parseFrom { b with openClass := some { k with inRange := true } } rest
      else if k.inRange then
        match k.extend c with
        | .error e => .error e
        | .ok k => parseFrom { b with openClass := some k } rest
      else parseFrom { b with openClass := some (k.addSingle c) } rest
    | none =>
      if c = '?' then parseFrom (b.push .any c) rest
      else if c = '*' then
        match rest with
        | '*' :: rest =>
          let twoStars := (b.push .star c).push .star c
          if b.branch.isEmpty then
            match rest with
            | [] => parseFrom (b.push .leadingDirectories c) []
            | '/' :: rest => parseFrom (b.push .leadingDirectories '/') rest
            | d :: rest => parseFrom twoStars (d :: rest)
          else if b.afterSeparator then
            match rest with
            | [] => parseFrom (b.pushRecursive .everythingBelow c) []
            | '/' :: rest => parseFrom (b.pushRecursive .directoriesBetween '/') rest
            | d :: rest =>
              if !b.groups.isEmpty && (d = ',' || d = '\x7d') then
                parseFrom (b.pushRecursive .everythingBelow c) (d :: rest)
              else parseFrom twoStars (d :: rest)
          else parseFrom twoStars rest
        | rest => parseFrom (b.push .star c) rest
      else if c = '[' then
        match rest with
        | d :: more =>
          if d = '!' || d = '^' then
            parseFrom { b with openClass := some ⟨true, [], true, false⟩ } more
          else parseFrom { b with openClass := some ⟨false, [], true, false⟩ } (d :: more)
        | [] => .error .unclosedClass
      else if c = '\x7b' then parseFrom b.openGroup rest
      else if c = '\x7d' then
        match b.closeGroup with
        | .error e => .error e
        | .ok b => parseFrom b rest
      else if c = ',' then parseFrom b.comma rest
      else if c = '\\' then
        match rest with
        | [] => .error .danglingEscape
        | d :: rest => parseFrom (b.push (.literal d) d) rest
      else parseFrom (b.push (.literal c) c) rest

def parse (text : String) : Except Problem (List Token) := do
  let b ← parseFrom .start text.toList
  if b.groups.isEmpty then .ok b.branch.reverse else .error .unclosedGroup

end LintEngine.Glob
