import LintEngine.Document.Preprocess
import LintEngine.Shell.Builtin
import LintEngine.Shell.Parser
import LintEngine.Shell.Utility.Table

namespace LintEngine.Shell

def Machine.settle (tested : Bool) (m : Machine) : Machine :=
  if m.goesOn && m.has 'e' && !tested && m.status ≠ 0 then { m with flow := .exits } else m

def assignment? : Word → Option (Bytes × Word)
  | .text ['='] false :: _ => none
  | w => go [] w
where
  go (name : Bytes) : Word → Option (Bytes × Word)
    | .text [c] false :: rest =>
      if c = '=' then if isName name then some (name, rest) else none
      else if isNameChar c then go (name ++ [c]) rest
      else none
    | _ => none

def splitAssignments : List Word → List (Bytes × Word) × List Word
  | [] => ([], [])
  | w :: rest =>
    match assignment? w with
    | some found =>
      let (more, words) := splitAssignments rest
      (found :: more, words)
    | none => ([], w :: rest)

/-- What a descriptor is connected with, or why it cannot be. -/
def Machine.redirectTo (m : Machine) (descriptor : Nat) (kind : RedirectionKind)
    (target : Bytes) : Except Bytes Machine :=
  let opened (m : Machine) (s : Stream) :=
    let (m, i) := m.addStream s
    m.connect descriptor i
  let named (verb : String) (reason : String) : Except Bytes Machine :=
    .error (verb.toList ++ target ++ ": ".toList ++ reason.toList)
  let created (e : FileError) := named "cannot create " (match e with
    | .notFound => "Directory nonexistent"
    | e => FileFault.reason e)
  let known := if Task.isInputName target then some 0 else Task.descriptorNamed? target
  let duplicated (source : Nat) : Except Bytes Machine :=
    match m.descriptors.lookup source with
    | some i => .ok (m.connect descriptor i)
    | none => .error (natText source ++ ": Bad file descriptor".toList)
  match kind, known with
  | .duplicate, _ =>
    if target = ['-'] then .ok (m.disconnect descriptor)
    else if target.length = 1 && target.all Char.isDigit then duplicated (Number.ofDigits target)
    else .error "Syntax error: Bad fd number".toList
  | _, some source => duplicated source
  | .input, none =>
    match (Machine.path? target).map fun p => (m.tree.locate .follow p, p) with
    | some (.ok place, _) =>
      match m.tree.node? place with
      | some (.file _) => .ok (opened m (.file place 0 false))
      | _ => .ok (opened m .null)
    | some (.error .notFound, _) | none => named "cannot open " "No such file"
    | some (.error e, _) => named "cannot open " (FileFault.reason e)
  | .document, none => .ok (opened m (.source target))
  | kind, none =>
    match Machine.path? target with
    | none => created .notFound
    | some p =>
      let present := (m.tree.lookup p).toOption
      if kind = .output && m.has 'C' && (match present with
          | some (.file _) => true
          | _ => false) then named "cannot create " "File exists"
      else
        match present, kind with
        | some (.file _), .append | some (.file _), .both =>
          match m.tree.locate .follow p with
          | .ok place => .ok (opened m (.file place 0 (kind = .append)))
          | .error e => created e
        | some .device, _ => .ok (opened m .null)
        | _, _ =>
          match m.tree.create p with
          | .ok (tree, place) =>
            .ok (opened { m with tree := tree } (.file place 0 (kind = .append)))
          | .error e => created e

def Machine.runUtility (m : Machine) (environment : List (Bytes × Bytes))
    (launch : List (Bytes × Bytes) → Job → FileTree → Bytes → Finished) (u : Utility)
    (arguments : List Bytes) : Machine :=
  let input := m.input 0
  let (status, w) := (u arguments).run ⟨m.tree, input, false, false, [], environment, launch⟩
  let m := { m with tree := { w.tree with workingPlace := m.tree.workingPlace } }
  let left := if w.exact || m.rereads 0 then w.input.length else 0
  let m := if w.taken then m.leave 0 left else m
  (w.written.reverse.foldl (fun m (descriptor, text) => m.write descriptor text) m).withStatus
    status

def Machine.subshell (m : Machine) : Machine :=
  { m with
    traps := m.traps.filter (·.2.isEmpty), pending := [], loops := 0, flow := .next }

def Machine.start (tree : FileTree) (environment : List (Bytes × Bytes)) (input name : Bytes)
    (arguments : List Bytes) : Machine where
  tree := tree
  streams := [.source input, .sink [], .sink []]
  descriptors := [(0, 0), (1, 1), (2, 2)]
  bindings := environment.map fun (name, value) => ⟨name, some value, true, false⟩
  functions := []
  name := name
  arguments := arguments
  status := 0
  substituted := none
  options := []
  flow := .next
  documents := []
  documentCount := 0
  loops := 0
  hidden := none
  traps := []
  pending := []
  jobs := []
  line := 1
  optionOffset := 0

/-- The places of a script in which options and operands of a shell stand: the command or the file
with the script, the name and the arguments. -/
inductive ShellCall where
  | script (text name : Bytes) (arguments : List Bytes)
  | file (name : Bytes) (arguments : List Bytes)
  | input

def shellCall : List Bytes → Bytes → ShellCall × Bytes
  | [], options => (.input, options)
  | a :: rest, options =>
    match a with
    | '-' :: c :: letters =>
      let given := c :: letters
      let options := options ++ given.filter fun c => Builtin.optionOrder.contains c
      if given.contains 'c' then
        match rest with
        | text :: name :: arguments => (.script text name arguments, options)
        | [text] => (.script text "sh".toList [], options)
        | [] => (.input, options)
      else if given = ['s'] then (.input, options)
      else shellCall rest options
    | a => (.file a rest, options)

def locateAll : List Bytes → Machine → Machine
  | [], m => m
  | name :: rest, m =>
    let m := if Builtin.isBuiltin name || (m.functions.lookup name).isSome ||
        Reader.keywords.contains (String.ofList name) then m.write 1 (name ++ ['\n'])
      else if (utility? name).isSome || name = "sh".toList then
        m.write 1 ("/usr/bin/".toList ++ name ++ ['\n'])
      else m.withStatus 127
    locateAll rest m

def describeAll : List Bytes → Machine → Machine
  | [], m => m
  | name :: rest, m =>
    let tell (text : String) (m : Machine) := m.write 1 (name ++ text.toList ++ ['\n'])
    let m := if Reader.keywords.contains (String.ofList name) then tell " is a shell keyword" m
      else if (m.functions.lookup name).isSome then tell " is a shell function" m
      else if (Builtin.special? name).isSome || Builtin.isSpecial name then
        tell " is a special shell builtin" m
      else if Builtin.isBuiltin name then tell " is a shell builtin" m
      else if (utility? name).isSome || name = "sh".toList then
        m.write 1 (name ++ " is /usr/bin/".toList ++ name ++ ['\n'])
      else (tell ": not found" m).withStatus 127
    describeAll rest m

def Machine.subshellEnd (m : Machine) : Machine :=
  if m.isKilled then m else { m with flow := .exits }

mutual
/-- Carries out a command. The number bounds the steps, and `tested` tells whether a failure is
looked at. -/
def exec : Nat → Bool → Command → Machine → Machine
  | 0, _, _, m => m.halt
  | n + 1, tested, c, m =>
    if m.has 'n' then m
    else
    match c with
    | .nothing => m
    | .simple line words redirections =>
      answerSignals n (execSimple n tested words redirections { m with line := line })
    | .redirected body redirections =>
      let outer := m.descriptors
      let (m, good) := redirect n redirections m
      let m := if good then exec n tested body m else m
      { m with descriptors := outer }
    | .subshell body => (inSubshell n tested body m).settle tested
    | .pipe a b =>
      let (outer, sink) := m.addStream (.sink [])
      let left := (exec n tested a (outer.subshell.connect 1 sink)).subshellEnd
      let left := farewell n left
      let text := left.collected sink
      let m := m.leaveSubshell left
      if left.isKilled then { m with flow := left.flow }
      else
        let (outer, source) := m.addStream (.source text)
        let right := (exec n tested b (outer.subshell.connect 0 source)).subshellEnd
        let right := farewell n right
        let m := m.leaveSubshell right
        if right.isKilled then { m with flow := right.flow } else m.settle tested
    | .both a b =>
      let m := exec n true a m
      if m.goesOn && m.status = 0 then exec n tested b m else m
    | .either a b =>
      let m := exec n true a m
      if m.goesOn && m.status ≠ 0 then exec n tested b m else m
    | .sequence a b =>
      let m := exec n tested a m
      if m.goesOn then exec n tested b m else m
    | .background c =>
      let (outer, source) := m.addStream (.source [])
      let inner := inSubshell n tested c (outer.connect 0 source)
      let number := natText (101 + m.jobs.length)
      { inner with
        descriptors := m.descriptors, status := 0, jobs := (number, inner.status) :: m.jobs }
    | .negation c =>
      let m := exec n true c m
      if m.goesOn then m.withStatus (if m.status = 0 then 1 else 0) else m
    | .conditional condition body otherwise =>
      let m := exec n true condition m
      if !m.goesOn then m
      else if m.status = 0 then exec n tested body m
      else exec n tested otherwise (m.withStatus 0)
    | .loop negated condition body =>
      let m := execLoop n tested negated condition body 0 { m with loops := m.loops + 1 }
      { m with loops := m.loops - 1 }
    | .forEach name words body =>
      let (fields, m) := match words with
        | some words => (expandWords (capture n) words).run { m with line := m.line }
        | none => (m.arguments, m)
      if !m.goesOn then m
      else
        let m := execEach n tested name body fields
          { m with loops := m.loops + 1, status := 0 }
        { m with loops := m.loops - 1 }
    | .choice word branches =>
      let (text, m) := (expandText (capture n) word).run m
      if m.goesOn then execBranches n tested text branches (m.withStatus 0) else m
    | .definition name body =>
      { m with functions := (name, body) :: m.functions.filter (·.1 ≠ name), status := 0 }
/-- Does what is to be done for signals that have come. -/
def answerSignals : Nat → Machine → Machine
  | 0, m => m.halt
  | n + 1, m =>
    match m.pending with
    | [] => m
    | signal :: rest =>
      if !m.goesOn then m
      else
        let status := m.status
        let text := (m.traps.lookup signal).getD []
        let m := runText n false (Source.ofText text m.documentCount) { m with pending := rest }
        if m.goesOn then answerSignals n (m.withStatus status) else m
/-- Repeats a body as long as a condition holds; the loop has the status of the body. -/
def execLoop : Nat → Bool → Bool → Command → Command → Nat → Machine → Machine
  | 0, _, _, _, _, _, m => m.halt
  | n + 1, tested, negated, condition, body, status, m =>
    let m := exec n true condition m
    match m.flow with
    | .next =>
      if (m.status = 0) = negated then m.withStatus status
      else
        let m := exec n tested body m
        match m.flow with
        | .next => execLoop n tested negated condition body m.status m
        | .breaks levels =>
          { m with flow := if levels ≤ 1 then .next else .breaks (levels - 1) }
        | .continues levels =>
          if levels ≤ 1 then
            execLoop n tested negated condition body m.status { m with flow := .next }
          else { m with flow := .continues (levels - 1) }
        | _ => m
    | .breaks levels => { m with flow := if levels ≤ 1 then .next else .breaks (levels - 1) }
    | .continues levels =>
      if levels ≤ 1 then execLoop n tested negated condition body status { m with flow := .next }
      else { m with flow := .continues (levels - 1) }
    | _ => m
/-- Carries out a body for each field. -/
def execEach : Nat → Bool → Bytes → Command → List Bytes → Machine → Machine
  | 0, _, _, _, _, m => m.halt
  | _ + 1, _, _, _, [], m => m
  | n + 1, tested, name, body, field :: rest, m =>
    let m := m.assign name field
    if !m.goesOn then m
    else
      let m := exec n tested body m
      match m.flow with
      | .next => execEach n tested name body rest m
      | .breaks levels => { m with flow := if levels ≤ 1 then .next else .breaks (levels - 1) }
      | .continues levels =>
        if levels ≤ 1 then execEach n tested name body rest { m with flow := .next }
        else { m with flow := .continues (levels - 1) }
      | _ => m
/-- Carries out the first branch of which a pattern matches. -/
def execBranches : Nat → Bool → Bytes → List Branch → Machine → Machine
  | 0, _, _, _, m => m.halt
  | _ + 1, _, _, [], m => m
  | n + 1, tested, text, .branch patterns body :: rest, m =>
    let (found, m) := matchesAny n text patterns m
    if !m.goesOn then m
    else if found then exec n tested body m
    else execBranches n tested text rest m
/-- Whether one of several patterns matches a text. -/
def matchesAny : Nat → Bytes → List Word → Machine → Bool × Machine
  | 0, _, _, m => (false, m.halt)
  | _ + 1, _, [], m => (false, m)
  | n + 1, text, w :: rest, m =>
    let (gs, m) := (expandGlyphs (capture n) w).run m
    if !m.goesOn then (false, m)
    else if Wildcard.isMatch (Wildcard.parse gs) text then (true, m)
    else matchesAny n text rest m
/-- Carries out a command in a subshell. -/
def inSubshell : Nat → Bool → Command → Machine → Machine
  | 0, _, _, m => m.halt
  | n + 1, tested, body, m =>
    let inner := farewell n (exec n tested body m.subshell).subshellEnd
    let m := m.leaveSubshell inner
    if inner.isKilled then { m with flow := inner.flow } else m
/-- Does what is to be done at the end of a shell. -/
def farewell : Nat → Machine → Machine
  | 0, m => m
  | n + 1, m =>
    match m.traps.lookup 0, m.flow with
    | some text, .exits =>
      let status := m.status
      let m := runText n false (Source.ofText text m.documentCount)
        { m with traps := m.traps.filter (·.1 ≠ 0), flow := .next }
      if m.flow = .exits then m else { m with status := status }
    | _, _ => m
/-- The output of commands that becomes part of a word, without line feeds at its end. -/
def capture : Nat → List Command → Expander Bytes
  | 0, _ => do
    modify Machine.halt
    return []
  | n + 1, script => do
    let m ← get
    let (outer, sink) := m.addStream (.sink [])
    let start := { outer.subshell.connect 1 sink with status := 0 }
    let inner := farewell n (execAll n script start).subshellEnd
    let text := inner.collected sink
    let after := { m.leaveSubshell inner with status := m.status, substituted := some inner.status }
    set (if inner.isKilled then { after with flow := inner.flow } else after)
    return dropFinalFeeds (text.filter (· ≠ '\x00'))
/-- Carries out commands one after the other. -/
def execAll : Nat → List Command → Machine → Machine
  | 0, _, m => m.halt
  | _ + 1, [], m => m
  | n + 1, c :: rest, m =>
    let m := exec n false c m
    if m.goesOn then execAll n rest m else m
/-- Connects descriptors, and tells whether all could be connected. -/
def redirect : Nat → List Redirection → Machine → Machine × Bool
  | 0, _, m => (m.halt, false)
  | _ + 1, [], m => (m, true)
  | n + 1, .redirection descriptor kind target number :: rest, m =>
    let word := if kind = .document then (m.documents.lookup number).getD [] else target
    let (text, m) := (expandText (capture n) word).run m
    if !m.goesOn then (m, false)
    else
      match m.redirectTo descriptor kind text with
      | .ok m => redirect n rest m
      | .error message =>
        if message.take 6 = "Syntax".toList then (m.abort message, false)
        else ((m.complain message).withStatus 2, false)
/-- Gives variables the values of words. -/
def assignAll : Nat → List (Bytes × Word) → Machine → Machine
  | 0, _, m => m.halt
  | _ + 1, [], m => m
  | n + 1, (name, word) :: rest, m =>
    let (value, m) := (expandValue (capture n) word).run m
    if !m.goesOn then m
    else
      let m := m.assign name value
      if m.goesOn then assignAll n rest m else m
/-- Carries out a simple command. -/
def execSimple : Nat → Bool → List Word → List Redirection → Machine → Machine
  | 0, _, _, _, m => m.halt
  | n + 1, tested, words, redirections, m =>
    let (assignments, words) := splitAssignments words
    let (fields, m) := (expandWords (capture n) words).run { m with substituted := none }
    if !m.goesOn then m
    else
      let outer := m.descriptors
      match fields with
      | [] =>
        let (m, good) := redirect n redirections m
        let m := { m with descriptors := outer }
        if !m.goesOn then m
        else if !good then m.settle tested
        else
          let m := assignAll n assignments m
          if m.goesOn then (m.withStatus (m.substituted.getD 0)).settle tested else m
      | name :: arguments =>
        let special := Builtin.isSpecial name
        let (m, good) := redirect n redirections m
        if !m.goesOn then { m with descriptors := outer }
        else if !good then
          let m := { m with descriptors := outer }
          if special then { m with flow := .exits } else m.settle tested
        else
          let saved := assignments.map fun (name, _) => (name, m.binding? name)
          let m := assignAll n assignments m
          if !m.goesOn then { m with descriptors := outer }
          else if special then
            let m := runSpecial n tested name arguments m
            let keeps := name = "exec".toList && arguments.isEmpty
            (if keeps then m else { m with descriptors := outer }).settle tested
          else
            let m := assignments.foldl (fun m (name, _) =>
              match m.binding? name with
              | some v => m.putVariable { v with exported := true }
              | none => m) m
            let m := runNamed n tested true name arguments m
            let m := saved.foldl (fun m (name, v) => m.restoreVariable name v) m
            ({ m with descriptors := outer }).settle tested
/-- Carries out a command of the language of shells. -/
def runSpecial : Nat → Bool → Bytes → List Bytes → Machine → Machine
  | 0, _, _, _, m => m.halt
  | n + 1, tested, name, arguments, m =>
    match Builtin.special? name with
    | some action => action arguments m
    | none =>
      if name = "eval".toList then
        let text := [' '].intercalate arguments
        runText n tested (Source.ofText text m.documentCount) (m.withStatus 0)
      else if name = "exec".toList then
        match arguments with
        | [] => m.withStatus 0
        | name :: arguments =>
          let m := runProgram n "exec: ".toList name arguments m
          if m.goesOn then { m with flow := .exits } else m
      else
        match arguments with
        | [] => m.withStatus 0
        | file :: _ =>
          let found := if file.contains '/' then
              (Machine.path? file).bind fun p => (m.tree.read p).toOption
            else none
          match found with
          | some content =>
            let m := runText n tested
              (Source.ofText (Bytes.ofByteArray content) m.documentCount) (m.withStatus 0)
            if m.flow = .returns then { m with flow := .next } else m
          | none =>
            m.abort (if file.contains '/' then
                ".: cannot open ".toList ++ file ++ ": No such file".toList
              else ".: ".toList ++ file ++ ": not found".toList)
/-- Carries out a command by its name: a function, a command of the shell, or a program. -/
def runNamed : Nat → Bool → Bool → Bytes → List Bytes → Machine → Machine
  | 0, _, _, _, _, m => m.halt
  | n + 1, tested, functions, name, arguments, m =>
    match if functions then m.functions.lookup name else none with
    | some body =>
      let inner := exec n tested body
        { m with arguments := arguments, hidden := some [], loops := 0 }
      let restored := (inner.hidden.getD []).foldl (fun m (name, v) => m.restoreVariable name v)
        { inner with arguments := m.arguments, loops := m.loops }
      { restored with
        hidden := m.hidden
        flow := if inner.flow = .returns then .next else inner.flow }
    | none =>
      match Builtin.regular? name with
      | some action => action arguments m
      | none =>
        if name = "command".toList then runCommand n tested arguments m
        else if name = "type".toList then describeAll arguments (m.withStatus 0)
        else runProgram n [] name arguments m
/-- Carries out a command without regard to functions, or tells what a name is. -/
def runCommand : Nat → Bool → List Bytes → Machine → Machine
  | 0, _, _, m => m.halt
  | n + 1, tested, arguments, m =>
    match arguments with
    | [] => m.withStatus 0
    | ['-', 'p'] :: rest | ['-', '-'] :: rest => runCommand n tested rest m
    | ['-', 'v'] :: names => locateAll names (m.withStatus 0)
    | ['-', 'V'] :: names => describeAll names (m.withStatus 0)
    | name :: rest =>
      if Builtin.isSpecial name then runSpecial n tested name rest m
      else runNamed n tested false name rest m
/-- Runs a program by its name; messages start with `lead`. -/
def runProgram : Nat → Bytes → Bytes → List Bytes → Machine → Machine
  | 0, _, _, _, m => m.halt
  | n + 1, lead, name, arguments, m =>
    let base := ((cutAt '/' name).getLast?).getD []
    let directory := name.take (name.length - base.length)
    let known := directory.isEmpty ||
      ["/bin/", "/usr/bin/"].contains (String.ofList directory)
    let shells := ["sh", "dash", "bash"].contains (String.ofList base)
    match (if known && !shells then utility? base else none) with
    | some u => m.runUtility m.environment (launch n) u arguments
    | none =>
      if known && shells then runShell n arguments m
      else
        let node? := (Machine.path? name).bind fun p => (m.tree.lookup p).toOption
        if name.contains '/' && node?.isSome then
          (m.complain (lead ++ name ++ ": Permission denied".toList)).withStatus 126
        else (m.complain (lead ++ name ++ ": not found".toList)).withStatus 127
/-- Runs another shell with the files and streams of this one. -/
def runShell : Nat → List Bytes → Machine → Machine
  | 0, _, m => m.halt
  | n + 1, arguments, m =>
    let (call, options) := shellCall arguments []
    let fresh (name : Bytes) (arguments : List Bytes) : Machine :=
      { Machine.start m.tree m.environment [] name arguments with
        streams := m.streams
        descriptors := m.descriptors
        documentCount := m.documentCount
        options := options }
    let finish (inner : Machine) : Machine :=
      let after := m.leaveSubshell (farewell n inner.subshellEnd)
      match inner.flow with
      | .killed signal => after.withStatus (128 + signal)
      | _ => after
    match call with
    | .script text name arguments =>
      let inner := fresh name arguments
      finish (runText n false (Source.ofText text inner.documentCount) inner)
    | .file name arguments =>
      match (Machine.path? name).bind fun p => (m.tree.read p).toOption with
      | some content =>
        let inner := fresh name arguments
        finish (runText n false
          (Source.ofText (Bytes.ofByteArray content) inner.documentCount) inner)
      | none =>
        (m.write 2 (("sh: 0: cannot open ".toList ++ name ++ ": No such file\n".toList))).withStatus
          2
    | .input =>
      let text := m.input 0
      let m := m.leave 0 0
      let inner := { fresh "sh".toList [] with streams := m.streams }
      m.leaveSubshell
        (farewell n (runText n false (Source.ofText text inner.documentCount) inner).subshellEnd)
def launch : Nat → List (Bytes × Bytes) → Job → FileTree → Bytes → Finished
  | 0, _, _, tree, input => ⟨tree, input.length, [], 1⟩
  | n + 1, environment, job, tree, input =>
    let start := Machine.start tree environment input "sh".toList []
    let done := match job with
      | .script text => farewell n (runText n false (Source.ofText text 0) start).subshellEnd
      | .program [] => start
      | .program (name :: arguments) => runProgram n [] name arguments start
    ⟨done.tree, (done.input 0).length, [(2, done.collected 2), (1, done.collected 1)], done.status⟩
def runText : Nat → Bool → Source → Machine → Machine
  | 0, _, _, m => m.halt
  | n + 1, tested, s, m =>
    match s.next with
    | .nothing => m
    | .malformed => m.abort "Syntax error".toList
    | .line l =>
      let m := exec n tested l.command
        { m with documents := l.documents ++ m.documents, documentCount := l.rest.count }
      if m.goesOn then
        runText n tested { l.rest with count := max l.rest.count m.documentCount } m
      else m
end

def stepLimit : Nat := 1000000

def startEnvironment (tree : FileTree) : List (Bytes × Bytes) :=
  [("HOME".toList, "/root".toList),
    ("PATH".toList, "/usr/local/sbin:/usr/local/bin:/usr/sbin:/usr/bin:/sbin:/bin".toList),
    ("PWD".toList, Bytes.ofString tree.workingDirectory.text)]

def ownVariables : List Variable :=
  [⟨"IFS".toList, some [' ', '\t', '\n'], false, false⟩,
    ⟨"OPTIND".toList, some ['1'], false, false⟩]

def commandLimit : Nat := 131071

def startFault? (command : String) : Option StartFault :=
  if command.toList.contains '\x00' then some .nulInCommand
  else if commandLimit < command.utf8ByteSize then some .commandTooLong
  else none

def run : CommandRunner := fun tree command input =>
  match startFault? command with
  | some fault => (tree, .notStarted fault)
  | none =>
    let start := Machine.start tree (startEnvironment tree) (Bytes.ofByteArray input) "sh".toList []
    let start := { start with bindings := start.bindings ++ ownVariables }
    let m := farewell stepLimit
      (runText stepLimit false (Source.ofText (Bytes.ofString command) 0) start).subshellEnd
    ({ m.tree with workingPlace := tree.workingPlace },
      if m.isKilled then .killed else .exited m.status (m.collected 1).toByteArray)

end LintEngine.Shell
