import LintEngine.Shell.Arithmetic
import LintEngine.Shell.Utility.Condition
import LintEngine.Shell.Utility.Print
import LintEngine.Shell.Utility.Work

namespace LintEngine.Shell

open Number

namespace Launch

def idle (status : Nat) : Utility := fun _ => return status

def echoed (feed escapes : Bool) (words : List Bytes) : Bytes :=
  let text := [' '].intercalate words
  let (output, ended) := if escapes then unescape (text.length + 1) text else (text, false)
  if feed && !ended then output ++ ['\n'] else output

/-- The options of `echo` at the head of its arguments: whether a line feed follows, and whether
escapes are read. -/
def echoOptions (feed escapes : Bool) : List Bytes → Bool × Bool × List Bytes
  | ('-' :: c :: letters) :: rest =>
    if (c :: letters).all fun l => "neE".contains l then
      let escapes := (c :: letters).foldl
        (fun escapes l => if l = 'e' then true else if l = 'E' then false else escapes) escapes
      echoOptions (feed && !(c :: letters).contains 'n') escapes rest
    else (feed, escapes, ('-' :: c :: letters) :: rest)
  | words => (feed, escapes, words)

def echo : Utility := fun arguments => do
  let (feed, escapes, words) := echoOptions true false arguments
  Task.print (echoed feed escapes words)
  return 0

def printf : Utility := fun arguments => do
  match arguments with
  | [] =>
    Task.fault "printf" "missing operand".toList
    return 1
  | format :: values =>
    let s := formatted format values
    s.complaints.forM (Task.fault "printf")
    Task.print s.output
    return if s.failed || !s.complaints.isEmpty then 1 else 0

def test (name : String) : Utility := fun arguments => do
  match Condition.evaluate (← get).tree arguments with
  | .ok value => return if value then 0 else 1
  | .error message =>
    Task.fault name message
    return 2

def bracket : Utility := fun arguments => do
  if arguments.getLast? = some [']'] then test "[" arguments.dropLast
  else
    Task.fault "[" "missing ']'".toList
    return 2

def pwd : Utility := fun _ => do
  Task.print (Bytes.ofString (← get).tree.workingDirectory.text ++ ['\n'])
  return 0

def runIn (environment : List (Bytes × Bytes)) (command : List Bytes) : Task Nat := do
  let f ← Task.launch environment (.program command) none
  Task.passOn f
  return f.status

def run (command : List Bytes) : Task Nat := do
  runIn (← get).environment command

def setIn (environment : List (Bytes × Bytes)) (name value : Bytes) : List (Bytes × Bytes) :=
  if environment.any (·.1 = name) then
    environment.map fun e => if e.1 = name then (name, value) else e
  else environment ++ [(name, value)]

def isSetting (a : Bytes) : Bool := a.contains '='

def env : Utility := fun arguments => do
  let table : OptionTable :=
    ⟨OptionTable.flags "i0v" ++ OptionTable.valued "uCS",
      [("ignore-environment", 'i'), ("null", '0'), ("unset", 'u'), ("chdir", 'C')]⟩
  match table.readFrom true (arguments.length + 1) arguments with
  | .error f =>
    Task.fault "env" f.message
    Task.hint "env"
    return 125
  | .ok p =>
    let operands := if p.operands.head? = some ['-'] then p.operands.drop 1 else p.operands
    let cleared := p.has 'i' || p.operands.head? = some ['-']
    let unset := p.options.filterMap fun o => if o.1 = 'u' then o.2 else none
    let given := (← get).environment
    let start := if cleared then [] else given
    let start := start.filter fun e => !unset.contains e.1
    let settings := operands.takeWhile isSetting
    let environment := settings.foldl
      (fun es a => setIn es (a.takeWhile (· ≠ '=')) ((a.dropWhile (· ≠ '=')).drop 1)) start
    match operands.drop settings.length with
    | [] =>
      let ending := if p.has '0' then '\x00' else '\n'
      Task.print (environment.flatMap fun e => e.1 ++ '=' :: e.2 ++ [ending])
      return 0
    | command => runIn environment command

def printenv : Utility := fun arguments => do
  let environment := (← get).environment
  match arguments with
  | [] =>
    Task.print (environment.flatMap fun e => e.1 ++ '=' :: e.2 ++ ['\n'])
    return 0
  | names =>
    let found := names.filterMap fun name => environment.lookup name
    Task.print (Lines.join found)
    return Task.status (found.length = names.length)

def wrapper (name : String) (flags valued : String) (operands failure : Nat) : Utility :=
  fun arguments => do
    let table : OptionTable := ⟨OptionTable.flags flags ++ OptionTable.valued valued,
      [("preserve-status", 'p'), ("foreground", 'f'), ("kill-after", 'k'), ("signal", 's'),
        ("adjustment", 'n'), ("input", 'i'), ("output", 'o'), ("error", 'e')]⟩
    match table.readFrom true (arguments.length + 1) arguments with
    | .error f =>
      Task.fault name f.message
      Task.hint name
      return failure
    | .ok p =>
      match p.operands.drop operands with
      | [] =>
        Task.fault name "missing operand".toList
        Task.hint name
        return failure
      | command => run command

def sleep : Utility := fun arguments => do
  let isTime (a : Bytes) : Bool :=
    match takeUnsignedDecimal? a with
    | some (_, []) => true
    | some (_, [c]) => "smhd".contains c
    | _ => a = "infinity".toList || a = "inf".toList
  if arguments.isEmpty then
    Task.fault "sleep" "missing operand".toList
    return 1
  else return Task.status (arguments.all isTime)

/-- The words of a text for a command: blanks and line ends divide them, and quotes keep them
together. The number bounds the text; the flag tells whether a word has begun. -/
def quotedWords : Nat → Bool → Bytes → Bytes → Option (List Bytes)
  | 0, _, _, _ => some []
  | _ + 1, begun, word, [] => some (if begun then [word] else [])
  | n + 1, begun, word, c :: rest =>
    if isBlank c || c = '\n' then
      if begun then (quotedWords n false [] rest).map (word :: ·) else quotedWords n false [] rest
    else if c = '\\' then
      match rest with
      | d :: rest => quotedWords n true (word ++ [d]) rest
      | [] => quotedWords n true word []
    else if c = '\'' || c = '"' then
      let inner := rest.takeWhile fun d => d ≠ c && d ≠ '\n'
      match rest.drop inner.length with
      | d :: rest => if d = c then quotedWords n true (word ++ inner) rest else none
      | [] => none
    else quotedWords n true (word ++ [c]) rest

def groupsOf {α : Type} (most : Nat) : Nat → List α → List (List α)
  | 0, _ => []
  | _ + 1, [] => []
  | n + 1, items => items.take most :: groupsOf most n (items.drop most)

def replaceAll (part new : Bytes) : Nat → Bytes → Bytes
  | 0, text => text
  | _ + 1, [] => []
  | n + 1, c :: rest =>
    match stripLead? part (c :: rest) with
    | some after => new ++ replaceAll part new n after
    | none => c :: replaceAll part new n rest

def runAll : Nat → List (List Bytes) → Task Nat
  | status, [] => return status
  | status, command :: rest => do
    let f ← Task.launch (← get).environment (.program command) (some [])
    Task.passOn f
    if f.status = 0 then runAll status rest
    else if f.status = 255 then
      Task.fault "xargs" (command.head?.getD [] ++ ": exited with status 255; aborting".toList)
      return 124
    else if f.status = 126 || f.status = 127 then return f.status
    else if 128 < f.status then return 125
    else runAll 123 rest

/-- Runs commands with words of the input as their last arguments. -/
def xargs : Utility := fun arguments => do
  let table : OptionTable :=
    ⟨OptionTable.flags "0rtxpo" ++ OptionTable.valued "adEILnPs" ++ [('i', .optional)],
      [("null", '0'), ("no-run-if-empty", 'r'), ("max-args", 'n'), ("max-lines", 'L'),
        ("delimiter", 'd'), ("max-procs", 'P'), ("replace", 'i'), ("arg-file", 'a')]⟩
  match table.readFrom true (arguments.length + 1) arguments with
  | .error f =>
    Task.fault "xargs" f.message
    return 1
  | .ok p =>
    let text ← (do
      match p.value? 'a' with
      | some file =>
        match ← Task.readNamed file with
        | .ok text => return text
        | .error _ => return []
      | none => Task.takeInput)
    let command := if p.operands.isEmpty then ["echo".toList] else p.operands
    let delimiter? : Option Char :=
      if p.has '0' then some '\x00'
      else (p.value? 'd').bind fun d => (unescape (d.length + 1) d).1.head?
    let part? := if p.has 'i' then some ((p.value? 'i').getD "\x7b\x7d".toList) else p.value? 'I'
    let words? : Option (List Bytes) :=
      match delimiter?, part? with
      | some d, _ => some (Lines.ofRecords d text).lines
      | none, some _ =>
        some (((Lines.ofBytes text).lines.map fun line => line.dropWhile isBlank).filter
          fun line => !line.isEmpty)
      | none, none => quotedWords (text.length + 1) false [] text
    match words? with
    | none =>
      Task.fault "xargs" "unmatched quote".toList
      return 1
    | some words =>
      match part? with
      | some part =>
        runAll 0 (words.map fun word =>
          command.map fun a => replaceAll part word (a.length + 1) a)
      | none =>
        if words.isEmpty then
          if p.has 'r' then return 0 else runAll 0 [command]
        else
          match p.value? 'n', p.value? 'L' with
          | some most, _ =>
            let most := ofDigits most
            if most = 0 then return 1
            else runAll 0 ((groupsOf most (words.length + 1) words).map (command ++ ·))
          | none, some most =>
            let lines := (Lines.ofBytes text).lines.filterMap fun line =>
              (quotedWords (line.length + 1) false [] line).filter (!·.isEmpty)
            runAll 0 ((groupsOf (max 1 (ofDigits most)) (lines.length + 1) lines).map
              fun group => command ++ group.flatten)
          | none, none => runAll 0 [command ++ words]

end Launch

end LintEngine.Shell
