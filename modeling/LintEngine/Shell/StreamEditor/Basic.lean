import LintEngine.Shell.StreamEditor.Script
import LintEngine.Shell.Utility.Work

namespace LintEngine.Shell.StreamEditor

structure Line where
  text : Bytes
  ended : Bool

inductive RangeState where
  | idle
  | active (stop : Option Nat)
  | over
deriving DecidableEq

inductive Pending where
  | text (bytes : Bytes)
  | file (name : Bytes)
  | line (name : Bytes)

structure Written where
  name : Bytes
  text : Bytes
  unended : Bool

structure Editor where
  pattern : Line
  hold : Line
  number : Nat
  lines : List (Line × Bytes × Bool)
  file : Bytes
  isLast : Bool
  ranges : List RangeState
  pending : List Pending
  unended : Bool
  files : List Written
  sources : List (Bytes × List Bytes)
  substituted : Bool
  lastRegex : Option Regex
  status : Nat

structure Setup where
  steps : Array Step
  quiet : Bool
  separator : Char
  width : Nat
  separate : Bool

abbrev Edit := StateT Editor Task

inductive Ending where
  | normal
  | deleted
  | again
  | quit
  | quitSilently
  | failed

def emit (o : Setup) (text : Bytes) : Edit Unit := do
  if (← get).unended then
    Task.print [o.separator]
    modify fun e => { e with unended := false }
  Task.print text

def emitLine (o : Setup) (l : Line) : Edit Unit := do
  emit o (if l.ended then l.text ++ [o.separator] else l.text)
  if !l.ended then modify fun e => { e with unended := true }

def Written.lead (w : Written) (separator : Char) : Bytes :=
  if w.unended then [separator] else []

def writeLine (o : Setup) (name : Bytes) (l : Line) : Edit Unit := do
  let e ← get
  let old := (e.files.find? (·.name = name)).getD ⟨name, [], false⟩
  let text := old.lead o.separator ++ l.text ++ (if l.ended then [o.separator] else [])
  let w : Written := ⟨name, old.text ++ text, !l.ended⟩
  set { e with files := w :: e.files.filter (·.name ≠ name) }
  match Task.descriptorNamed? name with
  | some d => modifyThe Work fun work => { work with written := (d, text) :: work.written }
  | none =>
    let _ ← (Task.writeFile name w.text false : Task _)
    return ()

def writePending (o : Setup) : List Pending → Edit Unit
  | [] => modify fun e => { e with pending := [] }
  | p :: rest => do
    match p with
    | .text bytes => emit o bytes
    | .file name =>
      match ← (Task.readNamed name : Task _) with
      | .ok text => if !text.isEmpty then emit o text
      | .error _ => pure ()
    | .line name =>
      let e ← get
      let lines ← match e.sources.lookup name with
        | some lines => pure lines
        | none =>
          match ← (Task.readNamed name : Task _) with
          | .ok text =>
            let l := Lines.ofRecords o.separator text
            pure ((l.lines.zipIdx 1).map fun (line, n) =>
              if n = l.lines.length && !l.ended then line else line ++ [o.separator])
          | .error _ => pure []
      match lines with
      | [] => pure ()
      | line :: rest =>
        emit o line
        modify fun e => { e with sources := (name, rest) :: e.sources.filter (·.1 ≠ name) }
    writePending o rest

def readNext (o : Setup) (appends : Bool) : Edit Bool := do
  let e ← get
  match e.lines with
  | [] => return false
  | (l, file, isLast) :: rest =>
    let anew := o.separate && e.file ≠ file
    let text := if appends then e.pattern.text ++ o.separator :: l.text else l.text
    set { e with
      pattern := ⟨text, l.ended⟩
      number := if anew then 1 else e.number + 1
      lines := rest
      file := file
      isLast := isLast }
    return true

def matchesAddress (a : Address) : Edit Bool := do
  let e ← get
  match a with
  | .line n => return e.number = n
  | .every first step =>
    if step = 0 then return e.number = first
    else return first ≤ e.number && (e.number - first) % step = 0
  | .last => return e.isLast
  | .matching r mode =>
    match r.orElse fun _ => e.lastRegex with
    | none => return false
    | some r =>
      set { e with lastRegex := some r }
      return r.occursIn mode e.pattern.text

def startRange (stop : RangeEnd) (line : Nat) (past : Bool) : RangeState × Bool :=
  match stop with
  | .address (.line n) =>
    if n ≤ line then (.over, !past || line = n) else (.active (some n), true)
  | .after n => if n = 0 then (.over, true) else (.active (some (line + n)), true)
  | .multiple n =>
    if n = 0 || line % n = 0 then (.over, true) else (.active (some (line + (n - line % n))), true)
  | .address _ => (.active none, true)

/-- Whether a step applies to the present line, given the place of the step. -/
def applies (s : Selector) (place : Nat) : Edit Bool := do
  let selected ← match s.first, s.stop with
    | none, _ => pure true
    | some a, none => matchesAddress a
    | some a, some stop => do
      let e ← get
      let setState (r : RangeState) : Edit Unit :=
        modify fun e => { e with ranges := e.ranges.set place r }
      let state := (e.ranges[place]?).getD .idle
      match state with
      | .active (some n) =>
        if n ≤ e.number then setState .over
        pure (e.number ≤ n)
      | .active none =>
        match stop with
        | .address a =>
          if ← matchesAddress a then setState .over
          pure true
        | _ => pure true
      | state =>
        let numbered := match a with
          | .line n => some n
          | _ => none
        let starts ← match numbered with
          | some n => pure (state = .idle && n ≤ e.number)
          | none => matchesAddress a
        if starts then
          let past := numbered.any (· < e.number)
          let (next, selected) := startRange stop e.number past
          setState next
          pure selected
        else pure false
  return selected != s.negated

def changeByte (change : Char → Char) (c : Char) : Char :=
  if c < '\x80' then change c else '\xff'

def changeCase (mode : Char) (text : Bytes) : Bytes :=
  if mode = 'U' then text.map (changeByte Char.toUpper)
  else if mode = 'L' then text.map (changeByte Char.toLower)
  else text

def changeFirst (mode : Char) : Bytes → Bytes
  | [] => []
  | c :: rest =>
    (if mode = 'u' then changeByte Char.toUpper c
      else if mode = 'l' then changeByte Char.toLower c
      else c) :: rest

/-- What a replacement gives for a match: `whole` is the case of all that follows and `first` that
of the next byte. -/
def replace (m : Regex.Match) : (whole first : Char) → List ReplacementPart → Bytes
  | _, _, [] => []
  | whole, first, part :: rest =>
    match part with
    | .case c =>
      if c = 'u' || c = 'l' then replace m whole c rest else replace m c 'E' rest
    | .text bytes => written whole first bytes rest
    | .group n => written whole first (m.group n) rest
where
  written (whole first : Char) (text : Bytes) (rest : List ReplacementPart) : Bytes :=
    if text.isEmpty then replace m whole first rest
    else changeFirst first (changeCase whole text) ++ replace m whole 'E' rest

def substitute? (s : Substitution) (r : Regex) (text : Bytes) : Option Bytes :=
  let first := max s.number 1
  let found := r.matchesIn s.mode text
  if found.length < first then none
  else
    let pieces := (found.zipIdx 1).flatMap fun (m, i) =>
      let replaced := first ≤ i && (s.everywhere || i = first)
      m.before ++ (if replaced then replace m 'E' 'E' s.replacement else m.text)
    some (pieces ++ (found.getLast?.map (·.rest)).getD text)

def listed (c : Char) : Bytes :=
  match c with
  | '\\' => ['\\', '\\']
  | '\x07' => ['\\', 'a']
  | '\x08' => ['\\', 'b']
  | '\x0c' => ['\\', 'f']
  | '\n' => ['\\', 'n']
  | '\r' => ['\\', 'r']
  | '\t' => ['\\', 't']
  | '\x0b' => ['\\', 'v']
  | c =>
    if ' ' ≤ c && c ≤ '~' then [c]
    else
      let digits := Nat.toDigits 8 c.toNat
      '\\' :: List.replicate (3 - digits.length) '0' ++ digits

def listLines (width : Nat) : Nat → List Bytes → Bytes
  | _, [] => ['$', '\n']
  | used, piece :: rest =>
    if 1 < width && width - 1 < used + piece.length then
      '\\' :: '\n' :: piece ++ listLines width piece.length rest
    else piece ++ listLines width (used + piece.length) rest

def listText (width : Nat) (text : Bytes) : Bytes :=
  if width = 1 then
    (text.flatMap fun c => '\\' :: '\n' :: listed c) ++ ['$', '\n']
  else listLines width 0 (text.map listed)

def firstLine (separator : Char) (l : Line) : Line :=
  let first := l.text.takeWhile (· ≠ separator)
  if first.length < l.text.length then ⟨first, true⟩ else l

def runCommand (command : Bytes) : Edit Bytes := do
  let w ← getThe Work
  let f ← (Task.launch w.environment (.script command) none : Task _)
  return (f.written.filter (·.1 = 1)).flatMap (·.2)

def runSubstitution (o : Setup) (s : Substitution) : Edit (Option Ending) := do
  let e ← get
  match s.expression.orElse fun _ => e.lastRegex with
  | none =>
    Task.fault "sed" "no previous regular expression".toList
    set { e with status := 1 }
    return some .failed
  | some r =>
    set { e with lastRegex := some r }
    match substitute? s r e.pattern.text with
    | none => return none
    | some text =>
      modify fun e => { e with pattern := { e.pattern with text := text }, substituted := true }
      if s.runs then
        let output ← runCommand text
        let output := if output.getLast? = some '\n' then output.dropLast else output
        modify fun e => { e with pattern := { e.pattern with text := output } }
      let l := (← get).pattern
      if s.prints then emitLine o l
      match s.file with
      | some name => writeLine o name l
      | none => pure ()
      return none

/-- Carries out steps from a place on. The number bounds them. -/
def runSteps (o : Setup) : Nat → Nat → Edit Ending
  | 0, _ => return .failed
  | n + 1, place => do
    match o.steps[place]? with
    | none => return .normal
    | some s =>
      if !(← applies s.selector place) then
        match s.instruction with
        | .block after => runSteps o n after
        | _ => runSteps o n (place + 1)
      else
        let e ← get
        let goOn (e : Editor) : Edit Ending := do
          set e
          runSteps o n (place + 1)
        let l := e.pattern
        match s.instruction with
        | .block _ | .close | .label _ | .nothing => runSteps o n (place + 1)
        | .branch .always _ target => runSteps o n target
        | .branch .substituted _ target =>
          if e.substituted then
            set { e with substituted := false }
            runSteps o n target
          else runSteps o n (place + 1)
        | .branch .notSubstituted _ target =>
          if e.substituted then goOn { e with substituted := false }
          else runSteps o n target
        | .append text => goOn { e with pending := e.pending ++ [.text text] }
        | .insert text =>
          emit o text
          runSteps o n (place + 1)
        | .change text =>
          let inRange := match e.ranges[place]? with
            | some (.active _) => s.selector.stop.isSome && !s.selector.negated
            | _ => false
          if !inRange then emit o text
          return .deleted
        | .delete => return .deleted
        | .deleteFirst =>
          match l.text.dropWhile (· ≠ o.separator) with
          | [] => return .deleted
          | _ :: rest =>
            set { e with pattern := { l with text := rest } }
            return .again
        | .execute command =>
          if command.isEmpty then
            let output ← runCommand l.text
            let output := if output.getLast? = some '\n' then output.dropLast else output
            modify fun e => { e with pattern := { e.pattern with text := output } }
          else emit o (← runCommand command)
          runSteps o n (place + 1)
        | .fileName =>
          emit o (e.file ++ ['\n'])
          runSteps o n (place + 1)
        | .get => goOn { e with pattern := e.hold }
        | .getAppend =>
          goOn { e with pattern := ⟨l.text ++ o.separator :: e.hold.text, e.hold.ended⟩ }
        | .hold => goOn { e with hold := l }
        | .holdAppend =>
          goOn { e with hold := ⟨e.hold.text ++ o.separator :: l.text, l.ended⟩ }
        | .exchange => goOn { e with pattern := e.hold, hold := l }
        | .list width =>
          emit o (listText (width.getD o.width) l.text)
          runSteps o n (place + 1)
        | .next =>
          if e.lines.isEmpty then return .normal
          else
            if !o.quiet then emitLine o l
            writePending o (← get).pending
            let _ ← readNext o false
            runSteps o n (place + 1)
        | .nextAppend =>
          if e.lines.isEmpty then return .normal
          else
            writePending o e.pending
            let _ ← readNext o true
            runSteps o n (place + 1)
        | .print =>
          emitLine o l
          runSteps o n (place + 1)
        | .printFirst =>
          emitLine o (firstLine o.separator l)
          runSteps o n (place + 1)
        | .quit status =>
          set { e with status := status }
          return .quit
        | .quitSilently status =>
          set { e with status := status }
          return .quitSilently
        | .readFile name => goOn { e with pending := e.pending ++ [.file name] }
        | .readLine name => goOn { e with pending := e.pending ++ [.line name] }
        | .substitute sub =>
          match ← runSubstitution o sub with
          | some ending => return ending
          | none => runSteps o n (place + 1)
        | .writeFile name =>
          writeLine o name l
          runSteps o n (place + 1)
        | .writeFirst name =>
          writeLine o name (firstLine o.separator l)
          runSteps o n (place + 1)
        | .translate pairs =>
          goOn { e with pattern := { l with
            text := l.text.map fun c => (pairs.lookup c).getD c } }
        | .zap => goOn { e with pattern := { l with text := [] } }
        | .number =>
          emit o (natText e.number ++ ['\n'])
          runSteps o n (place + 1)

def stepLimit : Nat := 1000000

/-- Edits line after line; `reads` tells whether a new line is read first. The number bounds the
cycles. -/
def cycles (o : Setup) : Nat → (reads : Bool) → Edit Unit
  | 0, _ => return ()
  | n + 1, reads => do
    let more ← if reads then readNext o false else pure true
    if !more then return ()
    else
      if reads then modify fun e => { e with substituted := false }
      match ← runSteps o stepLimit 0 with
      | .normal =>
        if !o.quiet then emitLine o (← get).pattern
        writePending o (← get).pending
        cycles o n true
      | .deleted =>
        writePending o (← get).pending
        cycles o n true
      | .again =>
        writePending o (← get).pending
        cycles o n false
      | .quit =>
        if !o.quiet then emitLine o (← get).pattern
        emit o []
        writePending o (← get).pending
      | .quitSilently | .failed => return ()

/-- The lines of texts with the names of their files; the last of all, or of each file, is marked.
-/
def sourceLines (separator : Char) (separate : Bool) (texts : List (Bytes × Bytes)) :
    List (Line × Bytes × Bool) :=
  let marked := texts.map fun (name, text) =>
    let l := Lines.ofRecords separator text
    (l.lines.zipIdx 1).map fun (line, n) =>
      let atEnd := n = l.lines.length
      ((⟨line, !atEnd || l.ended⟩ : Line), name, separate && atEnd)
  let all := marked.flatten
  (all.zipIdx 1).map fun ((l, name, isLast), n) => (l, name, isLast || n = all.length)

def writtenFiles (steps : List Step) : List Bytes :=
  steps.filterMap fun s => match s.instruction with
    | .writeFile name | .writeFirst name => some name
    | .substitute sub => sub.file
    | _ => none

def startRanges (steps : List Step) : List RangeState :=
  steps.map fun s => if s.selector.openAtStart then .active none else .idle

def Editor.start (steps : List Step) (lines : List (Line × Bytes × Bool)) : Editor where
  pattern := ⟨[], true⟩
  hold := ⟨[], true⟩
  number := 0
  lines := lines
  file := ['-']
  isLast := false
  ranges := startRanges steps
  pending := []
  unended := false
  files := []
  sources := []
  substituted := false
  lastRegex := none
  status := 0

def options : OptionTable where
  letters := OptionTable.flags "nErszubS" ++ OptionTable.valued "efl" ++ [('i', .optional)]
  names := [("quiet", 'n'), ("silent", 'n'), ("expression", 'e'), ("file", 'f'),
    ("regexp-extended", 'E'), ("in-place", 'i'), ("line-length", 'l'), ("separate", 's'),
    ("unbuffered", 'u'), ("null-data", 'z'), ("posix", 'S'), ("sandbox", 'S'), ("debug", 'b')]

def scriptText (c : Char) (text : Bytes) : Task (Except Bytes (List Bytes)) := do
  if c = 'e' then return .ok [text]
  else if c = 'f' then
    match ← Task.readOperand text with
    | .ok content =>
      return .ok [if content.getLast? = some '\n' then content.dropLast else content]
    | .error e => return .error (text ++ ": ".toList ++ (FileFault.reason e).toList)
  else return .ok []

def scriptTexts : List Given → Task (Except Bytes (List Bytes))
  | [] => return .ok []
  | (c, value) :: rest => do
    match ← scriptText c (value.getD []) with
    | .error e => return .error e
    | .ok texts =>
      match ← scriptTexts rest with
      | .error e => return .error e
      | .ok more => return .ok (texts ++ more)

def reportFault : Fault → Task Nat
  | .malformed message => do
    Task.fault "sed" ("-e expression #1, char 0: ".toList ++ message.toList)
    return 1
  | .missingLabel name => do
    Task.fault "sed" ("can't find label for jump to \x60".toList ++ name ++ ['\''])
    return 4

def readInputs : List Bytes → Task (List (Bytes × Bytes) × Bool)
  | [] => return ([], true)
  | file :: rest => do
    match ← Task.readOperand file with
    | .ok text =>
      let (more, good) ← readInputs rest
      return ((file, text) :: more, good)
    | .error e =>
      Task.fault "sed" (match e with
        | .isDirectory => "couldn't edit ".toList ++ file ++ ": not a regular file".toList
        | e => "can't read ".toList ++ file ++ ": ".toList ++ (FileFault.reason e).toList)
      let (more, _) ← readInputs rest
      return (more, false)

def unread (separator : Char) (lines : List (Line × Bytes × Bool)) : Bytes :=
  (lines.filter fun (_, name, _) => name = ['-']).flatMap fun (l, _, _) =>
    if l.ended then l.text ++ [separator] else l.text

def editInPlace (o : Setup) (steps : List Step) (backup : Option Bytes) :
    List (Bytes × Bytes) → Task Nat
  | [] => return 0
  | (name, text) :: rest => do
    let before ← getThe Work
    let (_, e) ← (cycles o (stepLimit) true).run
      (Editor.start steps (sourceLines o.separator true [(name, text)]))
    let after ← getThe Work
    let fresh := after.written.take (after.written.length - before.written.length)
    let output := (fresh.filter fun (d, _) => d = 1).reverse.flatMap (·.2)
    let others := fresh.filter fun (d, _) => d ≠ 1
    modifyThe Work fun w => { w with written := others ++ before.written }
    match backup with
    | some ending =>
      let _ ← Task.writeFile (name ++ ending) text false
    | none => pure ()
    let _ ← Task.writeFile name output false
    if e.status ≠ 0 then return e.status else editInPlace o steps backup rest

/-- Edits the input or files as a script says. -/
def sed : Utility := fun arguments =>
  Task.withOptions "sed" 1 options arguments fun p => do
    match ← scriptTexts p.options with
    | .error message =>
      Task.fault "sed" ("couldn't open file ".toList ++ message)
      return 4
    | .ok given =>
      match given, p.operands with
      | [], [] =>
        Task.complain "Usage: sed [OPTION]... script [input-file]...".toList
        return 1
      | given, operands =>
        let script := if given.isEmpty then operands.head?.getD [] else ['\n'].intercalate given
        let files := if given.isEmpty then operands.drop 1 else operands
        let hushed := script.take 2 = ['#', 'n'] && (script.drop 2).head?.all (· = '\n')
        match parse (p.has 'E' || p.has 'r') script with
        | .error f => reportFault f
        | .ok steps =>
          let o : Setup :=
            { steps := steps.toArray
              quiet := p.has 'n' || hushed
              separator := if p.has 'z' then '\x00' else '\n'
              width := ((p.value? 'l').map Number.ofDigits).getD 70
              separate := p.has 's' || p.has 'i' }
          for name in writtenFiles steps do
            if (Task.descriptorNamed? name).isNone then
              let _ ← Task.writeFile name [] false
          if p.has 'i' then
            if files.isEmpty then
              Task.fault "sed" "no input files".toList
              return 4
            else
              let (texts, good) ← readInputs files
              let status ← editInPlace o steps (p.value? 'i') texts
              return if status ≠ 0 then status else if good then 0 else 4
          else
            let (texts, good) ← readInputs (if files.isEmpty then [['-']] else files)
            let lines := sourceLines o.separator o.separate texts
            let (_, e) ← (cycles o (stepLimit) true).run (Editor.start steps lines)
            if texts.any (·.1 = ['-']) then
              Task.leaveInput (unread o.separator e.lines)
              if p.has 'u' then modify fun w => { w with exact := true }
            return if e.status ≠ 0 then e.status else if good then 0 else 2

end LintEngine.Shell.StreamEditor
