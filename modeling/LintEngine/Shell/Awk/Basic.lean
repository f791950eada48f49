import LintEngine.Shell.Awk.Parser
import LintEngine.Shell.Awk.State

namespace LintEngine.Shell.Awk

open Number

inductive Place where
  | named (n : Name)
  | element (array : Name) (key : Key)
  | field (place : Nat)

inductive Flow where
  | next
  | broken
  | continued
  | returned (v : Value)

def Comparison.holds : Comparison → Ordering → Bool
  | .less, o => o = .lt
  | .atMost, o => o ≠ .gt
  | .equal, o => o = .eq
  | .unequal, o => o ≠ .eq
  | .greater, o => o = .gt
  | .atLeast, o => o ≠ .lt

/-- A magnitude times a power of two, where the magnitude is small up to zeros at its end. The
number bounds these zeros. -/
def scaledFloat : Nat → Nat → Int → Float
  | 0, m, e => (Float.ofNat m).scaleB e
  | n + 1, m, e =>
    if m ≠ 0 && m % 2 = 0 then scaledFloat n (m / 2) (e + 1) else (Float.ofNat m).scaleB e

def floatRemainder (x y : Float) : Float :=
  if x.isNaN || y.isNaN || x.isInf || y == 0.0 then 0.0 / 0.0
  else if y.isInf then x
  else
    let a := Binary.ofFloat x
    let b := Binary.ofFloat y
    let e := min a.exponent b.exponent
    let r := a.mantissa <<< (a.exponent - e).toNat % b.mantissa <<< (b.exponent - e).toNat
    let magnitude := scaledFloat 2200 r e
    if x < 0.0 then -magnitude else magnitude

def Operation.apply (op : Operation) (x y : Float) : Float :=
  match op with
  | .add => x + y
  | .subtract => x - y
  | .multiply => x * y
  | .divide => x / y
  | .remainder => floatRemainder x y
  | .power => x.pow y

/-- The part of a text from a place on, of at most so many bytes. Places start at one; a place
before that moves the end. -/
def substring (text : Bytes) (start : Int) (length : Option Int) : Bytes :=
  let length := length.map fun n => if start ≤ 0 then n - start else n
  let rest := text.drop (start - 1).toNat
  match length with
  | some n => rest.take n.toNat
  | none => rest

def indexOf (wanted : Bytes) : Nat → Bytes → Nat
  | place, [] => if wanted.isEmpty then place else 0
  | place, c :: rest =>
    if (stripLead? wanted (c :: rest)).isSome then place else indexOf wanted (place + 1) rest

def chance (seed : Nat) : Float × Nat :=
  let next := (seed * 1103515245 + 12345) % 0x80000000
  (Float.ofNat next / 2147483648.0, next)

namespace Run

def getPlace : Place → Run Value
  | .named n => getNamed n
  | .element array key => do
    return (← onArray array fun t => t.visit key (some .unset)).getD .unset
  | .field place => field place

def setPlace (p : Place) (v : Value) : Run Unit :=
  match p with
  | .named n => setNamed n v
  | .element array key => onArray array fun t => (t.insert key v, ())
  | .field place => setField place v

def outputText (v : Value) : Run Bytes := do
  match v with
  | .number x =>
    if Value.isWhole x then return v.toText [] else return v.toText (← variableText "OFMT" "%.6g")
  | v => return v.toText []

def format (values : List Value) (before : Bytes → Run Unit) : Run Bytes := do
  match values with
  | [] => return []
  | f :: values =>
    let f ← toText f
    let (text, fault) := fillIn (← numberFormat) (f.length + 1) 1 f values
    match fault with
    | none => return text
    | some (.invalid number) =>
      before text
      fail ("run time error: improper conversion(number ".toList ++ natText number ++
        ") in printf(\"".toList ++ f ++ "\")".toList)
    | some .missing =>
      before text
      fail ("run time error: not enough arguments passed to printf(\"".toList ++ f ++ "\")".toList)

def arraySize? (n : Name) : Run (Option Nat) := do
  let s ← get
  match n with
  | .common name =>
    if (s.globals[name]?).isSome || name = "NF" then return none
    else return (s.arrays[name]?).map Table.size
  | .parameter place =>
    match s.frame.getD place (.value .unset) with
    | .array name => return some ((((s.arrays[name]?).map Table.size).getD 0))
    | .value _ => return none

/-- Does what a function of the language does with values. -/
def applyBuiltin (function : String) (values : List Value) : Run Value := do
  let numbers := values.map Value.toNumber
  match function, values, numbers with
  | "length", [], _ => return .ofNat (← get).record.length
  | "length", [v], _ => return .ofNat (← toText v).length
  | "index", [a, b], _ => return .ofNat (indexOf (← toText b) 1 (← toText a))
  | "substr", v :: _, [_, start] =>
    return .text (substring (← toText v) (Value.toInteger start) none)
  | "substr", v :: _, [_, start, length] =>
    return .text
      (substring (← toText v) (Value.toInteger start) (some (Value.toInteger length)))
  | "sprintf", values, _ => return .text (← format values fun _ => return ())
  | "int", _, [x] => return .number (if x < 0.0 then x.ceil else x.floor)
  | "sqrt", _, [x] => return .number x.sqrt
  | "exp", _, [x] => return .number x.exp
  | "log", _, [x] => return .number x.log
  | "sin", _, [x] => return .number x.sin
  | "cos", _, [x] => return .number x.cos
  | "atan2", _, [y, x] => return .number (Float.atan2 y x)
  | "rand", _, _ =>
    let (x, seed) := chance (← get).seed
    modify fun s => { s with seed := seed }
    return .number x
  | "srand", _, _ =>
    let old := (← get).seed
    let seed := (numbers.head?.map fun x => (Value.toInteger x).toNat).getD 0
    modify fun s => { s with seed := seed }
    return .ofNat old
  | "toupper", [v], _ => return .text ((← toText v).map Char.toUpper)
  | "tolower", [v], _ => return .text ((← toText v).map Char.toLower)
  | "system", [v], _ =>
    let command ← toText v
    flush
    let f ← launch command none
    task (Task.passOn f)
    return .ofNat f.status
  | "close", [v], _ => return .ofInt (← close (← toText v))
  | "fflush", _, _ =>
    flush
    return .ofNat 0
  | _, _, _ => return .ofNat 0

def splitInto (text : Bytes) (array : Name) (e : FieldEnd) : Run Value := do
  let parts := e.cut text
  onArray array fun _ => (Table.ofList (parts.map Value.given), ())
  return .ofNat parts.length

mutual
/-- The value of an expression. The number bounds the steps. -/
def eval : Nat → Expr → Run Value
  | 0, _ => fail "too many steps".toList
  | n + 1, e => do
    match e with
    | .number x => return .number x
    | .text bytes => return .text bytes
    | .regex r => return .ofBool (r.occursIn .plain (← get).record)
    | .place t => getPlace (← resolve n t)
    | .assign t e =>
      let p ← resolve n t
      let v ← eval n e
      setPlace p v
      return v
    | .update t op e =>
      let p ← resolve n t
      let y := (← eval n e).toNumber
      let v := Value.number (op.apply (← getPlace p).toNumber y)
      setPlace p v
      return v
    | .step t up givesNew =>
      let p ← resolve n t
      let old := (← getPlace p).toNumber
      let new := if up then old + 1.0 else old - 1.0
      setPlace p (.number new)
      return .number (if givesNew then new else old)
    | .conditional c a b => if (← eval n c).isTrue then eval n a else eval n b
    | .both a b =>
      if (← eval n a).isTrue then return .ofBool (← eval n b).isTrue else return .ofBool false
    | .either a b =>
      if (← eval n a).isTrue then return .ofBool true else return .ofBool (← eval n b).isTrue
    | .not a => return .ofBool !(← eval n a).isTrue
    | .negative a => return .number (-(← eval n a).toNumber)
    | .positive a => return .number (← eval n a).toNumber
    | .compare c a b =>
      let x ← eval n a
      let y ← eval n b
      return .ofBool (c.holds (Value.compare (← numberFormat) x y))
    | .matching negated a b =>
      let text ← toText (← eval n a)
      let r ← evalRegex n b
      return .ofBool (r.occursIn .plain text != negated)
    | .member indices array =>
      let k ← key (← evalAll n indices)
      return .ofBool (← onArray array fun t => t.contains k)
    | .join a b =>
      let x ← toText (← eval n a)
      return .text (x ++ (← toText (← eval n b)))
    | .arithmetic op a b =>
      let x := (← eval n a).toNumber
      return .number (op.apply x (← eval n b).toNumber)
    | .group es => return ((← evalAll n es).getLast?).getD .unset
    | .call function arguments => callFunction n function arguments
    | .builtin function arguments => callBuiltin n function arguments
    | .readLine source t => readLine n source t
/-- The values of expressions. -/
def evalAll : Nat → List Expr → Run (List Value)
  | 0, _ => return []
  | _ + 1, [] => return []
  | n + 1, e :: rest => do
    let v ← eval n e
    return v :: (← evalAll n rest)
/-- An expression to match with. -/
def evalRegex : Nat → Expr → Run Regex
  | 0, _ => return .empty
  | n + 1, e =>
    match e with
    | .regex r => return r
    | .group [.regex r] => return r
    | e => do regexOf (← eval n e)
/-- The place that a target stands for. -/
def resolve : Nat → Target → Run Place
  | 0, _ => return .field 0
  | n + 1, t => do
    match t with
    | .variable name => return .named name
    | .element array indices => return .element array (← key (← evalAll n indices))
    | .field e => return .field (← fieldPlace (← eval n e))
/-- Calls a function of the program. -/
def callFunction : Nat → String → List Expr → Run Value
  | 0, _, _ => return .unset
  | n + 1, function, arguments => do
    match (← get).functions.find? (·.name = function) with
    | none => fail ("function ".toList ++ function.toList ++ " never defined".toList)
    | some f =>
      let locals ← bindArguments n f.arrays arguments
      let saved := (← get).frame
      modify fun s => { s with frame := locals.toArray }
      let flow ← exec n f.body
      modify fun s => { s with frame := saved }
      match flow with
      | .returned v => return v
      | _ => return .unset
/-- What the parameters of a function hold when it is called. -/
def bindArguments : Nat → List Bool → List Expr → Run (List Local)
  | 0, _, _ => return []
  | _ + 1, [], _ => return []
  | n + 1, isArray :: rest, arguments => do
    let here ← match isArray, arguments with
      | true, .place (.variable name) :: _ => pure (Local.array (← arrayName name))
      | true, _ => pure (Local.array (← newArray))
      | false, .place (.variable (.parameter place)) :: _ =>
        pure ((← get).frame.getD place (.value .unset))
      | false, e :: _ => pure (Local.value (← eval n e))
      | false, [] => pure (Local.value .unset)
    return here :: (← bindArguments n rest (arguments.drop 1))
/-- Calls a function of the language. -/
def callBuiltin : Nat → String → List Expr → Run Value
  | 0, _, _ => return .unset
  | n + 1, function, arguments => do
    match function, arguments with
    | "length", [.place (.variable name)] =>
      match ← arraySize? name with
      | some size => return .ofNat size
      | none => applyBuiltin "length" [← getNamed name]
    | "split", [e, .place (.variable array)] =>
      let text ← toText (← eval n e)
      splitInto text array (← get).fieldEnd
    | "split", [e, .place (.variable array), .regex r] =>
      let text ← toText (← eval n e)
      splitInto text array (.matching r)
    | "split", [e, .place (.variable array), separator] =>
      let text ← toText (← eval n e)
      match FieldEnd.ofText? (← toText (← eval n separator)) with
      | some e => splitInto text array e
      | none => fail "regular expression compile failed".toList
    | "match", [e, wanted] =>
      let text ← toText (← eval n e)
      let r ← evalRegex n wanted
      let (start, length) : Nat × Int := match r.search? .plain [] text with
        | some m => (m.before.length + 1, m.text.length)
        | none => (0, -1)
      setCommon "RSTART" (.ofNat start)
      setCommon "RLENGTH" (.ofInt length)
      return .ofNat start
    | "sub", wanted :: new :: target => substituteIn n false wanted new target
    | "gsub", wanted :: new :: target => substituteIn n true wanted new target
    | function, arguments => applyBuiltin function (← evalAll n arguments)
/-- Replaces matches in a target, or in the record. -/
def substituteIn : Nat → Bool → Expr → Expr → List Expr → Run Value
  | 0, _, _, _, _ => return .unset
  | n + 1, everywhere, wanted, new, target => do
    let r ← evalRegex n wanted
    let new ← toText (← eval n new)
    match target with
    | [.place t] =>
      let p ← resolve n t
      let (text, count) := replaceMatches r everywhere new (← toText (← getPlace p))
      if 0 < count then setPlace p (.text text)
      return .ofNat count
    | [e] =>
      let (_, count) := replaceMatches r everywhere new (← toText (← eval n e))
      return .ofNat count
    | _ =>
      let (text, count) := replaceMatches r everywhere new (← get).record
      if 0 < count then setRecord text
      return .ofNat count
/-- Reads a record into a target or in place of the present one. -/
def readLine : Nat → LineSource → Option Target → Run Value
  | 0, _, _ => return .unset
  | n + 1, source, t => do
    let found ← match source with
      | .input => pure (some (← nextRecord (n + 1)))
      | .file e => readFrom (← toText (← eval n e)) false
      | .command e => readFrom (← toText (← eval n e)) true
    match found with
    | none => return .ofInt (-1)
    | some none => return .ofNat 0
    | some (some record) =>
      match t with
      | some t => setPlace (← resolve n t) (.given record)
      | none => setRecord record
      return .ofNat 1
/-- Writes a text where it is to go. -/
def writeText : Nat → Destination → Bytes → Run Unit
  | 0, _, _ => return ()
  | n + 1, d, text => do
    match d with
    | .output => modify fun s => { s with output := text :: s.output }
    | .file e => writeTo (← toText (← eval n e)) false false text
    | .append e => writeTo (← toText (← eval n e)) false true text
    | .pipe e => writeTo (← toText (← eval n e)) true false text
/-- Carries out a statement. -/
def exec : Nat → Statement → Run Flow
  | 0, _ => fail "too many steps".toList
  | n + 1, s => do
    match s with
    | .run e =>
      let _ ← eval n e
      return .next
    | .print es d =>
      let texts ← if es.isEmpty then pure [(← get).record]
        else (← evalAll n es).mapM outputText
      let text := (← variableText "OFS" "").intercalate texts ++ (← variableText "ORS" "")
      writeText n d text
      return .next
    | .printf es d =>
      let values ← evalAll n es
      writeText n d (← format values fun before => writeText n d before)
      return .next
    | .block ss => execAll n ss
    | .cond c a b => if (← eval n c).isTrue then exec n a else exec n b
    | .while c body => execWhile n c body
    | .doWhile body c =>
      match ← exec n body with
      | .broken => return .next
      | .returned v => return .returned v
      | _ => execWhile n c body
    | .loop first condition step body =>
      match first with
      | some e =>
        let _ ← eval n e
      | none => pure ()
      execLoop n condition step body
    | .each t array body => execEach n t body (← onArray array Table.keys)
    | .next => throw .nextRecord
    | .nextFile => throw .nextFile
    | .exit e =>
      match e with
      | some e =>
        let code := Value.toInteger (← eval n e).toNumber
        modify fun s => { s with status := (code % 256).toNat }
      | none => pure ()
      throw .exit
    | .give e =>
      match e with
      | some e => return .returned (← eval n e)
      | none => return .returned .unset
    | .break => return .broken
    | .continue => return .continued
    | .delete array none =>
      onArray array fun _ => (Table.empty, ())
      return .next
    | .delete array (some indices) =>
      let k ← key (← evalAll n indices)
      onArray array fun t => (t.erase k, ())
      return .next
/-- Carries out statements in turn. -/
def execAll : Nat → List Statement → Run Flow
  | 0, _ => fail "too many steps".toList
  | _ + 1, [] => return .next
  | n + 1, s :: rest => do
    match ← exec n s with
    | .next => execAll n rest
    | flow => return flow
/-- Carries out a statement as long as a condition holds. -/
def execWhile : Nat → Expr → Statement → Run Flow
  | 0, _, _ => fail "too many steps".toList
  | n + 1, c, body => do
    if (← eval n c).isTrue then
      match ← exec n body with
      | .broken => return .next
      | .returned v => return .returned v
      | _ => execWhile n c body
    else return .next
def execLoop : Nat → Option Expr → Option Expr → Statement → Run Flow
  | 0, _, _, _ => fail "too many steps".toList
  | n + 1, condition, step, body => do
    let goesOn ← match condition with
      | some c => pure (← eval n c).isTrue
      | none => pure true
    if goesOn then
      match ← exec n body with
      | .broken => return .next
      | .returned v => return .returned v
      | _ =>
        match step with
        | some e =>
          let _ ← eval n e
        | none => pure ()
        execLoop n condition step body
    else return .next
def execEach : Nat → Target → Statement → List Bytes → Run Flow
  | 0, _, _, _ => fail "too many steps".toList
  | _ + 1, _, _, [] => return .next
  | n + 1, t, body, k :: rest => do
    setPlace (← resolve n t) (.text k)
    match ← exec n body with
    | .broken => return .next
    | .returned v => return .returned v
    | _ => execEach n t body rest
end

def stepLimit : Nat := 1000000

def applies : Pattern → Run Bool
  | .always => return true
  | .one e => return (← eval stepLimit e).isTrue
  | .range number first last => do
    let begins ← if (← get).active.contains number then pure true
      else pure (← eval stepLimit first).isTrue
    if begins then
      let others := (← get).active.filter (· ≠ number)
      if (← eval stepLimit last).isTrue then modify fun s => { s with active := others }
      else modify fun s => { s with active := number :: others }
    return begins
  | _ => return false

def act (r : Rule) : Run Unit := do
  let _ ← exec stepLimit (r.action.getD (.print [] .output))

def applyRules : List Rule → Run Unit
  | [] => return ()
  | r :: rest => do
    if ← applies r.pattern then act r
    applyRules rest

def attempt (r : Run Unit) : Run (Option Jump) :=
  tryCatch (r *> pure none) fun j => pure (some j)

def records (rules : List Rule) : Nat → Run (Option Jump)
  | 0 => return none
  | n + 1 => do
    match ← nextRecord stepLimit with
    | none => return none
    | some record =>
      setRecord record
      match ← attempt (applyRules rules) with
      | none | some .nextRecord => records rules n
      | some .nextFile =>
        modify fun s => { s with input := some [] }
        records rules n
      | some jump => return some jump

def isAt (start : Bool) (r : Rule) : Bool :=
  match r.pattern with
  | .atStart => start
  | .atEnd => !start
  | _ => false

def program (p : Program) : Run Unit := do
  let ending := p.rules.filter (isAt false)
  let rules := p.rules.filter fun r => !isAt true r && !isAt false r
  let begun ← attempt ((p.rules.filter (isAt true)).forM act)
  let read ← match begun with
    | none =>
      if rules.isEmpty && ending.isEmpty then pure none
      else
        attempt do
          match ← records rules stepLimit with
          | some jump => throw jump
          | none => return ()
    | some jump => pure (some jump)
  match read with
  | none | some .exit =>
    let _ ← attempt (ending.forM act)
  | some _ => pure ()
  let _ ← attempt finish

end Run

structure Call where
  separator : Option Bytes
  assignments : List (String × Bytes)
  files : List Bytes
  operands : List Bytes

inductive CallFault where
  | unknown (option : Bytes)
  | lacking (option : Char)
  | assignment (text : Bytes)

def CallFault.message : CallFault → Bytes
  | unknown option => "not an option: ".toList ++ option
  | lacking option => "option -".toList ++ [option] ++ " lacks argument".toList
  | assignment text => "improper assignment: -v ".toList ++ text

namespace Call

def withOption (c : Call) (option : Char) (value : Bytes) : Except CallFault Call :=
  if option = 'F' then .ok { c with separator := c.separator.orElse fun _ => some value }
  else if option = 'f' then .ok { c with files := value :: c.files }
  else if option = 'v' then
    match Run.operandAssignment? value with
    | some assigned => .ok { c with assignments := assigned :: c.assignments }
    | none => .error (.assignment value)
  else .ok c

def read : Nat → List Bytes → Except CallFault Call
  | 0, _ => .ok ⟨none, [], [], []⟩
  | _ + 1, [] => .ok ⟨none, [], [], []⟩
  | n + 1, a :: rest =>
    match a with
    | ['-', '-'] => .ok ⟨none, [], [], rest⟩
    | '-' :: c :: value =>
      if !"FfvW".contains c then
        if a = "--posix".toList then read n rest else .error (.unknown a)
      else if value.isEmpty then
        match rest with
        | [] => .error (.lacking c)
        | value :: rest => do (← read n rest).withOption c value
      else do (← read n rest).withOption c value
    | _ => .ok ⟨none, [], [], a :: rest⟩

def programText (c : Call) : Task (Option Bytes × List Bytes) := do
  if c.files.isEmpty then return (c.operands.head?, c.operands.drop 1)
  else
    let mut text := []
    for file in c.files do
      match ← Task.readOperand file with
      | .ok content => text := text ++ content ++ ['\n']
      | .error e =>
        Task.fault "awk" ("cannot open \"".toList ++ file ++ "\" (".toList ++
          (FileFault.reason e).toList ++ [')'])
        return (none, c.operands)
    return (some text, c.operands)

end Call

def State.start (p : Program) (operands : List Bytes) (environment : List (Bytes × Bytes)) :
    State where
  functions := p.functions
  globals := Std.HashMap.ofList
    [("FS", .text [' ']), ("OFS", .text [' ']), ("ORS", .text ['\n']), ("RS", .text ['\n']),
      ("SUBSEP", .text ['\x1c']), ("CONVFMT", .text "%.6g".toList),
      ("OFMT", .text "%.6g".toList), ("NR", .number 0.0), ("FNR", .number 0.0),
      ("RSTART", .number 0.0), ("RLENGTH", .number (-1.0)), ("FILENAME", .text []),
      ("ARGC", .ofNat (operands.length + 1))]
  arrays := Std.HashMap.ofList
    [("ARGV", (operands.zipIdx 1).foldl (fun t (a, i) => t.insert (.number i) (.given a))
        (Table.empty.insert (.number 0) (.given "awk".toList))),
      ("ENVIRON", environment.foldl (fun t (name, value) => t.insert (.text name) (.given value))
        Table.empty)]
  frame := #[]
  arrayCount := 0
  record := []
  fields := #[]
  fieldEnd := .blanks
  recordEnd := .char '\n'
  input := none
  operand := 1
  opened := false
  output := []
  writers := []
  sources := []
  active := []
  status := 0
  seed := 0

def awk : Utility := fun arguments => do
  match Call.read (arguments.length + 1) arguments with
  | .error f =>
    Task.fault "awk" f.message
    return 2
  | .ok call =>
    let (text, operands) ← call.programText
    match text with
    | none => return if call.files.isEmpty then 0 else 2
    | some text =>
      match Program.parse? text with
      | none =>
        Task.fault "awk" "syntax error".toList
        return 2
      | some p =>
        let w ← get
        let settings : Run Unit := do
          match call.separator with
          | some fs => Run.setCommon "FS" (.text (Token.unescape fs))
          | none => pure ()
          for (name, value) in call.assignments do
            Run.setCommon name (.given (Token.unescape value))
        let (_, s) ← (settings *> Run.program p).run.run (State.start p operands w.environment)
        return s.status

end LintEngine.Shell.Awk
