import LintEngine.Shell.Arithmetic
import LintEngine.Shell.Utility.Work

namespace LintEngine.Shell

namespace Condition

inductive Sign where
  | unary (letter : Char)
  | binary (name : String)
  | negation
  | conjunction
  | disjunction
  | opening
  | closing
deriving DecidableEq

def sign? (a : Bytes) : Option Sign :=
  let name := String.ofList a
  if name = "!" then some .negation
  else if name = "-a" then some .conjunction
  else if name = "-o" then some .disjunction
  else if name = "(" then some .opening
  else if name = ")" then some .closing
  else if ["=", "!=", "<", ">", "-eq", "-ne", "-ge", "-gt", "-le", "-lt", "-nt", "-ot",
      "-ef"].contains name then some (.binary name)
  else
    match a with
    | ['-', c] => if "rwxefdcbpugkstznhOGLS".contains c then some (.unary c) else none
    | _ => none

def isBinary : Option Sign → Bool
  | some (.binary _) => true
  | _ => false

inductive Token where
  | nothing
  | operand
  | sign (s : Sign)
deriving DecidableEq

/-- The token at the head of arguments: a sign for one operand is an operand itself where it has
none or where it stands before a sign for two. -/
def token : List Bytes → Token
  | [] => .nothing
  | a :: rest =>
    match sign? a with
    | none => .operand
    | some (.unary c) =>
      match rest with
      | [] => .operand
      | [_] => .sign (.unary c)
      | b :: _ => if isBinary (sign? b) then .operand else .sign (.unary c)
    | some .opening => if rest.isEmpty then .operand else .sign .opening
    | some s => .sign s

abbrev Reader := StateT (List Bytes) (Except Bytes)

def wrong {α : Type} (operand : Option Bytes) (message : String) : Reader α :=
  throw ((operand.map (· ++ ": ".toList)).getD [] ++ message.toList)

def number (a : Bytes) : Reader Int :=
  match Arithmetic.decimal? a with
  | some i => return i
  | none => throw ("Illegal number: ".toList ++ a)

def holdsForFile (tree : FileTree) (letter : Char) (name : Bytes) : Bool :=
  let node? := (Task.path? name).bind fun p => (tree.lookup p).toOption
  let link := (Task.path? name).any fun p =>
    match tree.locate .keepLink p with
    | .ok place => match tree.node? place with
      | some (.link _) => true
      | _ => false
    | .error _ => false
  match letter, node? with
  | 'h', _ | 'L', _ => link
  | 'e', some _ | 'r', some _ | 'w', some _ | 'O', some _ | 'G', some _ => true
  | 'f', some (.file _) => true
  | 'd', some .directory | 'x', some .directory => true
  | 'c', some .device => true
  | 's', some (.file content) => content.size ≠ 0
  | 's', some .directory => true
  | _, _ => false

def compare (tree : FileTree) (name : String) (a b : Bytes) : Reader Bool := do
  match name with
  | "=" => return a = b
  | "!=" => return a ≠ b
  | "<" => return compareBytes a b = .lt
  | ">" => return compareBytes a b = .gt
  | "-nt" => return holdsForFile tree 'e' a && !holdsForFile tree 'e' b
  | "-ot" => return holdsForFile tree 'e' b && !holdsForFile tree 'e' a
  | "-ef" =>
    let place (x : Bytes) := (Task.path? x).bind fun p => (tree.locate .follow p).toOption
    return (place a).isSome && place a = place b
  | name =>
    let i ← number a
    let j ← number b
    match name with
    | "-eq" => return i = j
    | "-ne" => return i ≠ j
    | "-ge" => return j ≤ i
    | "-gt" => return j < i
    | "-le" => return i ≤ j
    | _ => return i < j

mutual
/-- A disjunction, at whose first token the reading is. -/
def disjunction (tree : FileTree) : Nat → Token → Reader Bool
  | 0, _ => return false
  | n + 1, t => do
    let first ← conjunction tree n t
    match token ((← get).drop 1) with
    | .sign .disjunction =>
      modify (·.drop 2)
      let rest ← disjunction tree n (token (← get))
      return first || rest
    | _ => return first
/-- A conjunction. -/
def conjunction (tree : FileTree) : Nat → Token → Reader Bool
  | 0, _ => return false
  | n + 1, t => do
    let first ← negation tree n t
    match token ((← get).drop 1) with
    | .sign .conjunction =>
      modify (·.drop 2)
      let rest ← conjunction tree n (token (← get))
      return first && rest
    | _ => return first
/-- A condition with negations before it. -/
def negation (tree : FileTree) : Nat → Token → Reader Bool
  | 0, _ => return false
  | n + 1, t => do
    if t = .sign .negation then
      let next := token ((← get).drop 1)
      if next ≠ .nothing then modify (·.drop 1)
      return !(← negation tree n next)
    else primary tree n t
/-- A single condition or one in parentheses. -/
def primary (tree : FileTree) : Nat → Token → Reader Bool
  | 0, _ => return false
  | n + 1, t => do
    match t with
    | .nothing => return false
    | .sign .opening =>
      modify (·.drop 1)
      let next := token (← get)
      if next = .sign .closing then return false
      else
        let value ← disjunction tree n next
        modify (·.drop 1)
        if token (← get) = .sign .closing then return value
        else wrong none "closing paren expected"
    | .sign (.unary letter) =>
      modify (·.drop 1)
      match ← get with
      | [] => wrong (some ['-', letter]) "argument expected"
      | a :: _ =>
        if letter = 'z' then return a.isEmpty
        else if letter = 'n' then return !a.isEmpty
        else if letter = 't' then
          let _ ← number a
          return false
        else return holdsForFile tree letter a
    | _ =>
      match ← get with
      | a :: b :: rest =>
        match sign? b with
        | some (.binary name) =>
          match rest with
          | [] => wrong (some b) "argument expected"
          | c :: more =>
            set (c :: more)
            compare tree name a c
        | _ => return !a.isEmpty
      | [a] => return !a.isEmpty
      | [] => return false
end

def hold (tree : FileTree) (start : Token) (arguments : List Bytes) : Except Bytes Bool :=
  match (disjunction tree (4 * arguments.length + 8) start).run arguments with
  | .error message => .error message
  | .ok (_, a :: _ :: _) => .error (a ++ ": unexpected operator".toList)
  | .ok (value, _) => .ok value

def evaluate (tree : FileTree) : List Bytes → Except Bytes Bool
  | [] => .ok false
  | a :: rest =>
    let arguments := a :: rest
    let special := arguments.length = 3 || arguments.length = 4
    if arguments.length = 3 && isBinary ((arguments[1]?).bind sign?) then
      hold tree .operand arguments
    else if special && a = ['('] && arguments.getLast? = some [')'] then
      hold tree (token rest.dropLast) rest.dropLast
    else if special && a = ['!'] then (evaluate tree rest).map not
    else hold tree (token arguments) arguments

end Condition

end LintEngine.Shell
