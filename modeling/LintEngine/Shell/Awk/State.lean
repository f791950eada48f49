import LintEngine.Shell.Awk.Record
import LintEngine.Shell.Awk.Syntax
import LintEngine.Shell.Awk.Table
import LintEngine.Shell.Awk.Token
import LintEngine.Shell.Awk.Value
import LintEngine.Shell.Utility.Work

namespace LintEngine.Shell.Awk

inductive Local where
  | value (v : Value)
  | array (name : String)

instance : Inhabited Local := ⟨.value .unset⟩

structure Writer where
  name : Bytes
  isCommand : Bool
  text : List Bytes

structure Feed where
  name : Bytes
  isCommand : Bool
  rest : Bytes
  status : Nat

structure State where
  functions : List Function
  globals : Std.HashMap String Value
  arrays : Std.HashMap String (Table Value)
  frame : Array Local
  arrayCount : Nat
  record : Bytes
  fields : Array Value
  fieldEnd : FieldEnd
  recordEnd : RecordEnd
  input : Option Bytes
  operand : Nat
  opened : Bool
  output : List Bytes
  writers : List Writer
  sources : List Feed
  active : List Nat
  status : Nat
  seed : Nat

inductive Jump where
  | nextRecord
  | nextFile
  | exit
  | failed

abbrev Run := ExceptT Jump (StateT State Task)

namespace Run

def task {α : Type} (t : Task α) : Run α := ExceptT.lift (StateT.lift t)

def fail {α : Type} (message : Bytes) : Run α := do
  task (Task.fault "awk" message)
  modify fun s => { s with status := 2 }
  throw .failed

def variableText (name format : String) : Run Bytes := do
  return (((← get).globals[name]?).getD .unset).toText format.toList

def numberFormat : Run Bytes := variableText "CONVFMT" "%.6g"

def toText (v : Value) : Run Bytes := do
  match v with
  | .number x =>
    if Value.isWhole x then return v.toText [] else return v.toText (← numberFormat)
  | v => return v.toText []

def setRecord (text : Bytes) : Run Unit :=
  modify fun s =>
    { s with record := text, fields := ((s.fieldEnd.cut text).map Value.given).toArray }

def rebuild (fields : Array Value) : Run Unit := do
  let texts ← fields.toList.mapM toText
  let separator ← variableText "OFS" ""
  modify fun s => { s with record := separator.intercalate texts, fields := fields }

def fitFields (count : Nat) (fields : Array Value) : Array Value :=
  if count ≤ fields.size then fields.extract 0 count
  else fields ++ Array.replicate (count - fields.size) (.text [])

def fieldLimit : Nat := 32767

def fieldPlace (v : Value) : Run Nat := do
  let i := Value.toInteger v.toNumber
  if i < 0 then fail ("run time error: negative field index $".toList ++ intBytes i)
  else if (fieldLimit : Int) < i then
    fail ("run time error: maximum number of fields exceeded".toList)
  else return i.toNat

def field (place : Nat) : Run Value := do
  let s ← get
  if place = 0 then return .given s.record
  else return s.fields.getD (place - 1) (.given [])

def setField (place : Nat) (v : Value) : Run Unit := do
  if place = 0 then setRecord (← toText v)
  else
    let fields := (← get).fields
    rebuild ((fitFields (max place fields.size) fields).set! (place - 1) v)

def getCommon (name : String) : Run Value := do
  let s ← get
  if name = "NF" then return .ofNat s.fields.size
  else return (s.globals[name]?).getD .unset

def setCommon (name : String) (v : Value) : Run Unit := do
  if name = "NF" then
    let n := Value.toInteger v.toNumber
    if n < 0 then fail "run time error: negative value assigned to NF".toList
    else rebuild (fitFields n.toNat (← get).fields)
  else
    modify fun s => { s with globals := s.globals.insert name v }
    if name = "FS" then
      match FieldEnd.ofText? (← toText v) with
      | some e => modify fun s => { s with fieldEnd := e }
      | none => fail "regular expression compile failed".toList
    else if name = "RS" then
      match RecordEnd.ofText? (← toText v) with
      | some e => modify fun s => { s with recordEnd := e }
      | none => fail "regular expression compile failed".toList

def getNamed : Name → Run Value
  | .common name => getCommon name
  | .parameter place => do
    match (← get).frame.getD place (.value .unset) with
    | .value v => return v
    | .array _ => fail "run time error: array used as a scalar".toList

def setNamed (n : Name) (v : Value) : Run Unit :=
  match n with
  | .common name => setCommon name v
  | .parameter place => modify fun s => { s with frame := s.frame.set! place (.value v) }

def newArray : Run String := do
  let s ← get
  set { s with arrayCount := s.arrayCount + 1 }
  return "#" ++ String.ofList (natText s.arrayCount)

def arrayName : Name → Run String
  | .common name => return name
  | .parameter place => do
    match (← get).frame.getD place (.value .unset) with
    | .array name => return name
    | .value _ =>
      let name ← newArray
      modify fun s => { s with frame := s.frame.set! place (.array name) }
      return name

def onArray {β : Type} (n : Name) (f : Table Value → Table Value × β) : Run β := do
  let name ← arrayName n
  let s ← get
  let table := (s.arrays[name]?).getD .empty
  set { s with arrays := s.arrays.insert name .empty }
  let (table, b) := f table
  modify fun s => { s with arrays := s.arrays.insert name table }
  return b

def key : List Value → Run Key
  | [.number x] => do
    if Value.isWhole x && x < 9223372036854775808.0 then return .number (Value.toInteger x)
    else return .text (← toText (.number x))
  | [v] => return .text (← toText v)
  | vs => do
    let texts ← vs.mapM toText
    return .text ((← variableText "SUBSEP" "").intercalate texts)

def regexOf (v : Value) : Run Regex := do
  match Regex.parse? .scanner (← toText v) with
  | some r => return r
  | none => fail "regular expression compile failed".toList

def flush : Run Unit := do
  let s ← get
  task (Task.print s.output.reverse.flatten)
  for w in s.writers do
    if !w.isCommand && !w.text.isEmpty then
      let _ ← task (Task.writeFile w.name w.text.reverse.flatten true)
  set { s with
    output := []
    writers := s.writers.map fun (w : Writer) =>
      if w.isCommand then w else { w with text := [] } }

def blockSize : Nat := 4096

def flushBlocks : Run Unit := do
  let text := (← get).output.reverse.flatten
  let n := text.length / blockSize * blockSize
  task (Task.print (text.take n))
  modify fun s => { s with output := [text.drop n] }

def launch (command : Bytes) (input : Option Bytes) : Run Finished := do
  let w ← task get
  task (Task.launch w.environment (.script command) input)

def finishWriter (w : Writer) : Run Nat := do
  if w.isCommand then
    let f ← launch w.name (some w.text.reverse.flatten)
    task (Task.passOn f)
    return f.status
  else
    let _ ← task (Task.writeFile w.name w.text.reverse.flatten true)
    return 0

def writeTo (name : Bytes) (isCommand appends : Bool) (text : Bytes) : Run Unit := do
  if !isCommand && Task.descriptorNamed? name = some 1 then
    modify fun s => { s with output := text :: s.output }
  else if !isCommand && Task.descriptorNamed? name = some 2 then
    let _ ← task (Task.writeFile name text false)
  else
    let isIt (w : Writer) : Bool := w.name = name && w.isCommand = isCommand
    let w ← match (← get).writers.find? isIt with
      | some w => pure w
      | none =>
        if isCommand then flush
        else
          match ← task (Task.writeFile name [] appends) with
          | some e =>
            fail ("cannot open \"".toList ++ name ++ "\" for output (".toList ++
              (FileFault.reason e).toList ++ [')'])
          | none => pure ()
        pure ⟨name, isCommand, []⟩
    modify fun s => { s with
      writers := { w with text := text :: w.text } :: s.writers.filter (!isIt ·) }

def close (name : Bytes) : Run Int := do
  let s ← get
  set { s with
    writers := s.writers.filter (·.name ≠ name)
    sources := s.sources.filter (·.name ≠ name) }
  match s.writers.find? (·.name = name), s.sources.find? (·.name = name) with
  | some w, _ => return (← finishWriter w : Nat)
  | none, some r => return (if r.isCommand then r.status else 0 : Nat)
  | none, none => return -1

def finish : Run Unit := do
  let s ← get
  set { s with writers := [] }
  if s.writers.any (·.isCommand) then flushBlocks
  for w in s.writers do
    let _ ← finishWriter w
  flush

def feedNamed (name : Bytes) (isCommand : Bool) : Run (Option Feed) := do
  match (← get).sources.find? fun r => r.name = name && r.isCommand = isCommand with
  | some r => return some r
  | none =>
    if isCommand then
      flush
      let f ← launch name none
      task (Task.passOn { f with written := f.written.filter fun (d, _) => d ≠ 1 })
      let text := (f.written.filter fun (d, _) => d = 1).flatMap (·.2)
      return some ⟨name, true, text, f.status⟩
    else
      match ← task (Task.readOperand name) with
      | .ok text => return some ⟨name, false, text, 0⟩
      | .error _ => return none

def readFrom (name : Bytes) (isCommand : Bool) : Run (Option (Option Bytes)) := do
  match ← feedNamed name isCommand with
  | none => return none
  | some r =>
    let s ← get
    let keep (rest : Bytes) : Run Unit := modify fun s => { s with
      sources := { r with rest := rest } ::
        s.sources.filter fun x => !(x.name = name && x.isCommand = isCommand) }
    match s.recordEnd.take? r.rest with
    | none =>
      keep []
      return some none
    | some (record, rest) =>
      keep rest
      return some (some record)

def operandAssignment? (operand : Bytes) : Option (String × Bytes) :=
  let name := operand.takeWhile (· ≠ '=')
  if isName name && name.length < operand.length then
    some (String.ofList name, operand.drop (name.length + 1))
  else none

/-- Opens the next file among the operands, or the input if there was none. The number bounds the
operands. -/
def openNext : Nat → Run Bool
  | 0 => return false
  | n + 1 => do
    let s ← get
    let count := Value.toInteger ((← getCommon "ARGC").toNumber)
    if (s.operand : Int) < count then
      set { s with operand := s.operand + 1 }
      let found ← onArray (.common "ARGV") fun t => t.visit (.number s.operand) none
      let operand ← toText (found.getD .unset)
      if operand.isEmpty then openNext n
      else
        match operandAssignment? operand with
        | some (name, value) =>
          setCommon name (.given (Token.unescape value))
          openNext n
        | none => openFile operand
    else if s.opened then return false
    else openFile ['-']
where
  openFile (name : Bytes) : Run Bool := do
    match ← task (Task.readOperand name) with
    | .ok text =>
      modify fun s => { s with input := some text, opened := true }
      setCommon "FILENAME" (.given name)
      setCommon "FNR" (.number 0.0)
      return true
    | .error e =>
      fail ("cannot open \"".toList ++ name ++ "\" (".toList ++
        (FileFault.reason e).toList ++ [')'])

def countRecord (name : String) : Run Unit := do
  setCommon name (.number ((← getCommon name).toNumber + 1.0))

def nextRecord : Nat → Run (Option Bytes)
  | 0 => return none
  | n + 1 => do
    let s ← get
    match s.input with
    | none =>
      if ← openNext (n + 1) then nextRecord n else return none
    | some text =>
      match s.recordEnd.take? text with
      | some (record, rest) =>
        set { s with input := some rest }
        countRecord "NR"
        countRecord "FNR"
        return some record
      | none =>
        set { s with input := none }
        if ← openNext (n + 1) then nextRecord n else return none

end Run

end LintEngine.Shell.Awk
