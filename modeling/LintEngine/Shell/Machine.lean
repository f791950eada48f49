import LintEngine.FileTree.Basic
import LintEngine.Shell.Syntax
import LintEngine.Shell.Signal

namespace LintEngine.Shell

inductive Stream where
  | source (rest : Bytes)
  | sink (parts : List Bytes)
  | file (place : Place) (offset : Nat) (appends : Bool)
  | null

structure Variable where
  name : Bytes
  value : Option Bytes
  exported : Bool
  fixed : Bool

inductive Flow where
  | next
  | breaks (levels : Nat)
  | continues (levels : Nat)
  | returns
  | exits
  | killed (signal : Nat)
deriving DecidableEq

/-- A running shell. -/
structure Machine where
  tree : FileTree
  streams : List Stream
  descriptors : List (Nat × Nat)
  bindings : List Variable
  functions : List (Bytes × Command)
  name : Bytes
  arguments : List Bytes
  status : Nat
  substituted : Option Nat
  options : List Char
  flow : Flow
  documents : List (Nat × Word)
  documentCount : Nat
  loops : Nat
  hidden : Option (List (Bytes × Option Variable))
  traps : List (Nat × Bytes)
  pending : List Nat
  jobs : List (Bytes × Nat)
  line : Nat
  optionOffset : Nat

namespace Machine

def processNumber : Bytes := ['1', '0', '0']

def isKilled (m : Machine) : Bool :=
  match m.flow with
  | .killed _ => true
  | _ => false

def halt (m : Machine) : Machine := { m with flow := .killed Signal.killNumber }

def deliver (m : Machine) (signal : Nat) : Machine :=
  match (if signal = Signal.killNumber then none else m.traps.lookup signal) with
  | some [] => m
  | some _ => if signal = 0 then m else { m with pending := m.pending ++ [signal] }
  | none => if Signal.isHarmless signal then m else { m with flow := .killed signal }

def binding? (m : Machine) (name : Bytes) : Option Variable :=
  m.bindings.find? (·.name = name)

def value? (m : Machine) (name : Bytes) : Option Bytes :=
  (m.binding? name).bind Variable.value

def putVariable (m : Machine) (v : Variable) : Machine :=
  if (m.binding? v.name).isSome then
    { m with bindings := m.bindings.map fun w => if w.name = v.name then v else w }
  else { m with bindings := m.bindings ++ [v] }

def removeVariable (m : Machine) (name : Bytes) : Machine :=
  { m with bindings := m.bindings.filter (·.name ≠ name) }

def restoreVariable (m : Machine) (name : Bytes) (v : Option Variable) : Machine :=
  match v with
  | some v => m.putVariable v
  | none => m.removeVariable name

def separators (m : Machine) : Bytes :=
  match m.binding? "IFS".toList with
  | some v => v.value.getD []
  | none => [' ', '\t', '\n']

def has (m : Machine) (option : Char) : Bool := m.options.contains option

def parameter? (m : Machine) (name : Bytes) : Option Bytes :=
  match name with
  | ['?'] => some (natText m.status)
  | ['$'] => some processNumber
  | ['#'] => some (natText m.arguments.length)
  | ['-'] => some m.options
  | ['!'] => m.jobs.head?.map (·.1)
  | ['0'] => some m.name
  | c :: _ =>
    if c.isDigit then
      match Number.ofRadix? 10 name with
      | some (n + 1) => m.arguments[n]?
      | _ => none
    else m.value? name
  | [] => none

def stream? (m : Machine) (descriptor : Nat) : Option (Nat × Stream) :=
  match m.descriptors.lookup descriptor with
  | some i => (m.streams[i]?).map fun s => (i, s)
  | none => none

def setStream (m : Machine) (i : Nat) (s : Stream) : Machine :=
  { m with streams := m.streams.set i s }

def addStream (m : Machine) (s : Stream) : Machine × Nat :=
  ({ m with streams := m.streams ++ [s] }, m.streams.length)

def connect (m : Machine) (descriptor stream : Nat) : Machine :=
  { m with descriptors := (descriptor, stream) :: m.descriptors.filter (·.1 ≠ descriptor) }

def disconnect (m : Machine) (descriptor : Nat) : Machine :=
  { m with descriptors := m.descriptors.filter (·.1 ≠ descriptor) }

def contentAt (m : Machine) (place : Place) : Bytes :=
  match m.tree.node? place with
  | some (.file content) => Bytes.ofByteArray content
  | _ => []

def input (m : Machine) (descriptor : Nat) : Bytes :=
  match m.stream? descriptor with
  | some (_, .source rest) => rest
  | some (_, .file place offset _) => (m.contentAt place).drop offset
  | _ => []

def rereads (m : Machine) (descriptor : Nat) : Bool :=
  match m.stream? descriptor with
  | some (_, .file ..) => true
  | _ => false

def leave (m : Machine) (descriptor left : Nat) : Machine :=
  match m.stream? descriptor with
  | some (i, .source rest) => m.setStream i (.source (rest.drop (rest.length - left)))
  | some (i, .file place _ appends) =>
    m.setStream i (.file place ((m.contentAt place).length - left) appends)
  | _ => m

def write (m : Machine) (descriptor : Nat) (text : Bytes) : Machine :=
  if text.isEmpty then m
  else
    match m.stream? descriptor with
    | some (i, .sink parts) => m.setStream i (.sink (text :: parts))
    | some (i, .file place offset appends) =>
      let offset := if appends then (m.contentAt place).length else offset
      { m.setStream i (.file place (offset + text.length) appends) with
        tree := m.tree.writeAt place offset text.toByteArray }
    | _ => m

def collected (m : Machine) (stream : Nat) : Bytes :=
  match m.streams[stream]? with
  | some (.sink parts) => parts.reverse.flatten
  | _ => []

def complain (m : Machine) (message : Bytes) : Machine :=
  m.write 2 (m.name ++ ": ".toList ++ natText m.line ++ ": ".toList ++ message ++ ['\n'])

def withStatus (m : Machine) (status : Nat) : Machine :=
  { m with status := status }

def abort (m : Machine) (message : Bytes) : Machine :=
  { m.complain message with status := 2, flow := .exits }

def goesOn (m : Machine) : Bool := m.flow = .next

def assign (m : Machine) (name value : Bytes) : Machine :=
  match m.binding? name with
  | some v =>
    if v.fixed then m.abort (name ++ ": is read only".toList)
    else
      let m := if name = "OPTIND".toList then { m with optionOffset := 0 } else m
      m.putVariable { v with value := some value, exported := v.exported || m.has 'a' }
  | none => m.putVariable ⟨name, some value, m.has 'a', false⟩

def environment (m : Machine) : List (Bytes × Bytes) :=
  m.bindings.filterMap fun v => if v.exported then v.value.map fun x => (v.name, x) else none

def path? (name : Bytes) : Option Path :=
  (String.fromUTF8? name.toByteArray).map Path.mk

def leaveSubshell (outer inner : Machine) : Machine :=
  { outer with
    tree := { inner.tree with workingPlace := outer.tree.workingPlace }
    streams := inner.streams.take outer.streams.length
    status := inner.status
    documents := inner.documents
    documentCount := inner.documentCount }

end Machine

end LintEngine.Shell
