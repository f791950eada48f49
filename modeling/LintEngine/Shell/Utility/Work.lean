import LintEngine.FileTree.Basic
import LintEngine.Shell.Bytes

namespace LintEngine.Shell

inductive Job where
  | program (arguments : List Bytes)
  | script (text : Bytes)

/-- What has come of a job: the files after it, how much of its input is left, what it wrote to
which descriptor, and its status. -/
structure Finished where
  tree : FileTree
  left : Nat
  written : List (Nat × Bytes)
  status : Nat

structure Work where
  tree : FileTree
  input : Bytes
  taken : Bool
  exact : Bool
  written : List (Nat × Bytes)
  environment : List (Bytes × Bytes)
  launch : List (Bytes × Bytes) → Job → FileTree → Bytes → Finished

abbrev Task := StateM Work

abbrev Utility := List Bytes → Task Nat

def FileFault.reason : FileError → String
  | .notFound => "No such file or directory"
  | .notDirectory => "Not a directory"
  | .isDirectory => "Is a directory"
  | .tooManyLinks => "Too many levels of symbolic links"
  | .nameTooLong => "File name too long"
  | .nulInName => "Invalid argument"
  | .notText => "Invalid or incomplete multibyte or wide character"

namespace Task

def print (text : Bytes) : Task Unit :=
  if text.isEmpty then pure () else modify fun w => { w with written := (1, text) :: w.written }

def complain (text : Bytes) : Task Unit :=
  modify fun w => { w with written := (2, text ++ ['\n']) :: w.written }

def takeInput : Task Bytes := do
  let w ← get
  set { w with input := [], taken := true }
  return w.input

def leaveInput (rest : Bytes) : Task Unit :=
  modify fun w => { w with input := rest, taken := true }

def path? (name : Bytes) : Option Path :=
  (String.fromUTF8? name.toByteArray).map Path.mk

def isInputName (name : Bytes) : Bool :=
  ["/dev/stdin", "/dev/fd/0", "/proc/self/fd/0"].contains (String.ofList name)

def readNamed (name : Bytes) : Task (Except FileError Bytes) := do
  if isInputName name then return .ok (← takeInput)
  else
    match path? name with
    | none => return .error .notFound
    | some p => return ((← get).tree.read p).map Bytes.ofByteArray

def readOperand (name : Bytes) : Task (Except FileError Bytes) := do
  if name = ['-'] then return .ok (← takeInput) else readNamed name

def createFile (name : Bytes) : Task (Except FileError Place) := do
  match path? name with
  | none => return .error .notFound
  | some p =>
    match (← get).tree.create p with
    | .error e => return .error e
    | .ok (tree, place) =>
      modify fun w => { w with tree := tree }
      return .ok place

def descriptorNamed? (name : Bytes) : Option Nat :=
  if ["/dev/stdout", "/dev/fd/1", "/proc/self/fd/1"].contains (String.ofList name) then some 1
  else if ["/dev/stderr", "/dev/fd/2", "/proc/self/fd/2"].contains (String.ofList name) then
    some 2
  else none

def writeFile (name text : Bytes) (appends : Bool) : Task (Option FileError) := do
  match descriptorNamed? name with
  | some d =>
    modify fun w => { w with written := (d, text) :: w.written }
    return none
  | none =>
    match path? name with
    | none => return some .notFound
    | some p =>
      let w ← get
      let before := if appends then
          match w.tree.read p with
          | .ok content => Bytes.ofByteArray content
          | .error _ => []
        else []
      match w.tree.create p with
      | .error e => return some e
      | .ok (tree, place) =>
        set { w with tree := tree.writeAt place 0 (Bytes.toByteArray (before ++ text)) }
        return none

def launch (environment : List (Bytes × Bytes)) (job : Job) (input : Option Bytes) :
    Task Finished := do
  let w ← get
  let f := w.launch environment job w.tree (input.getD w.input)
  let w := { w with tree := { f.tree with workingPlace := w.tree.workingPlace } }
  set (match input with
    | some _ => w
    | none =>
      { w with
        input := w.input.drop (w.input.length - f.left)
        taken := w.taken || f.left ≠ w.input.length
        exact := true })
  return f

def passOn (f : Finished) : Task Unit :=
  modify fun w => { w with written := f.written.reverse ++ w.written }

end Task

inductive OptionValue where
  | none
  | required
  | optional
deriving DecidableEq

structure OptionTable where
  letters : List (Char × OptionValue)
  names : List (String × Char)

def OptionTable.flags (letters : String) : List (Char × OptionValue) :=
  letters.toList.map fun c => (c, OptionValue.none)

def OptionTable.valued (letters : String) : List (Char × OptionValue) :=
  letters.toList.map fun c => (c, OptionValue.required)

abbrev Given := Char × Option Bytes

structure Parsed where
  options : List Given
  operands : List Bytes

namespace Parsed

def has (p : Parsed) (c : Char) : Bool := p.options.any (·.1 = c)

def value? (p : Parsed) (c : Char) : Option Bytes :=
  (p.options.reverse.find? (·.1 = c)).bind (·.2)

def last? (p : Parsed) (cs : String) : Option Char :=
  (p.options.reverse.find? fun o => cs.contains o.1).map (·.1)

end Parsed

inductive OptionFault where
  | unknown (c : Char)
  | unknownName (name : Bytes)
  | ambiguousName (name : Bytes)
  | missing (c : Char)
  | missingName (name : String)
  | superfluous (name : String)

def OptionFault.message : OptionFault → Bytes
  | unknown c => "invalid option -- '".toList ++ [c, '\'']
  | unknownName name => "unrecognized option '--".toList ++ name ++ ['\'']
  | ambiguousName name => "option '--".toList ++ name ++ "' is ambiguous".toList
  | missing c => "option requires an argument -- '".toList ++ [c, '\'']
  | missingName name => "option '--".toList ++ name.toList ++ "' requires an argument".toList
  | superfluous name => "option '--".toList ++ name.toList ++ "' doesn't allow an argument".toList

namespace OptionTable

/-- Reads a cluster of letters; the rest of it can be the value of one. Tells also whether the next
argument was used as a value. -/
def readLetters (t : OptionTable) (next : Option Bytes) :
    Bytes → Except OptionFault (List Given × Bool)
  | [] => .ok ([], false)
  | c :: rest =>
    match t.letters.lookup c with
    | none => .error (.unknown c)
    | some .none => do
      let (more, used) ← readLetters t next rest
      .ok ((c, none) :: more, used)
    | some .optional => .ok ([(c, if rest.isEmpty then none else some rest)], false)
    | some .required =>
      if !rest.isEmpty then .ok ([(c, some rest)], false)
      else
        match next with
        | some value => .ok ([(c, some value)], true)
        | none => .error (.missing c)

def findName (t : OptionTable) (text : Bytes) : Except OptionFault (String × Char) :=
  match t.names.find? (·.1.toList = text) with
  | some found => .ok found
  | none =>
    match t.names.filter fun n => (stripLead? text n.1.toList).isSome with
    | [] => .error (.unknownName text)
    | found :: more => if more.all (·.2 = found.2) then .ok found else .error (.ambiguousName text)

def readName (t : OptionTable) (next : Option Bytes) (text : Bytes) :
    Except OptionFault (Given × Bool) := do
  let name := text.takeWhile (· ≠ '=')
  let value := if name.length < text.length then some (text.drop (name.length + 1)) else none
  let (full, c) ← t.findName name
  match (t.letters.lookup c).getD .none, value with
  | .none, none => .ok ((c, none), false)
  | .none, some _ => .error (.superfluous full)
  | .optional, value => .ok ((c, value), false)
  | .required, some value => .ok ((c, some value), false)
  | .required, none =>
    match next with
    | some value => .ok ((c, some value), true)
    | none => .error (.missingName full)

/-- Reads arguments. Operands may stand between options, unless the first one ends them. The number
bounds the arguments. -/
def readFrom (t : OptionTable) (operandsEnd : Bool) :
    Nat → List Bytes → Except OptionFault Parsed
  | 0, _ => .ok ⟨[], []⟩
  | _ + 1, [] => .ok ⟨[], []⟩
  | n + 1, a :: rest => do
    let after (used : Bool) := if used then rest.drop 1 else rest
    match a with
    | ['-', '-'] => .ok ⟨[], rest⟩
    | '-' :: '-' :: name =>
      let (found, used) ← t.readName rest.head? name
      let p ← readFrom t operandsEnd n (after used)
      .ok { p with options := found :: p.options }
    | '-' :: c :: letters =>
      let (found, used) ← t.readLetters rest.head? (c :: letters)
      let p ← readFrom t operandsEnd n (after used)
      .ok { p with options := found ++ p.options }
    | a =>
      if operandsEnd then .ok ⟨[], a :: rest⟩
      else
        let p ← readFrom t operandsEnd n rest
        .ok { p with operands := a :: p.operands }

def read (t : OptionTable) (arguments : List Bytes) : Except OptionFault Parsed :=
  t.readFrom false (arguments.length + 1) arguments

end OptionTable

namespace Task

def fault (name : String) (message : Bytes) : Task Unit :=
  complain (name.toList ++ ": ".toList ++ message)

def fileFault (name : String) (file : Bytes) (e : FileError) : Task Unit :=
  fault name (file ++ ": ".toList ++ (FileFault.reason e).toList)

def inQuotes (text : Bytes) : Bytes := '\'' :: text ++ ['\'']

def hint (name : String) : Task Unit :=
  complain ("Try '".toList ++ name.toList ++ " --help' for more information.".toList)

def withOptions (name : String) (failure : Nat) (t : OptionTable) (arguments : List Bytes)
    (body : Parsed → Task Nat) : Task Nat := do
  match t.read arguments with
  | .ok p => body p
  | .error f =>
    fault name f.message
    hint name
    return failure

/-- The contents of operands in order, where those that cannot be read are reported; without
operands, the input. Gives also whether all could be read. -/
def readOperands (name : String) : List Bytes → Task (List (Bytes × Bytes) × Bool)
  | [] => return ([], true)
  | file :: rest => do
    match ← readOperand file with
    | .ok text =>
      let (more, good) ← readOperands name rest
      return ((file, text) :: more, good)
    | .error e =>
      fileFault name file e
      let (more, _) ← readOperands name rest
      return (more, false)

def readAll (name : String) (operands : List Bytes) : Task (Bytes × Bool) := do
  let (texts, good) ← readOperands name (if operands.isEmpty then [['-']] else operands)
  return (texts.flatMap (·.2), good)

def status (good : Bool) : Nat := if good then 0 else 1

end Task

end LintEngine.Shell
