import LintEngine.Shell.Expansion
import LintEngine.Shell.Utility.Condition
import LintEngine.Shell.Utility.Print

namespace LintEngine.Shell

open Number

namespace Builtin

abbrev Action := List Bytes → Machine → Machine

def fail (name : String) (ends : Bool) (message : Bytes) (m : Machine) : Machine :=
  let text := name.toList ++ ": ".toList ++ message
  if ends then m.abort text else (m.complain text).withStatus 2

def natural? (a : Bytes) : Option Nat :=
  if a.isEmpty || !a.all Char.isDigit then none else some (ofDigits a)

def illegalNumber (a : Bytes) : Bytes := "Illegal number: ".toList ++ a

def illegalOption (c : Char) : Bytes := "Illegal option -".toList ++ [c]

def exit : Action
  | [], m => { m with flow := .exits }
  | a :: _, m =>
    match natural? a with
    | some n => { m with status := n % 256, flow := .exits }
    | none => fail "exit" true (illegalNumber a) m

def leave : Action
  | [], m => { m with flow := .returns }
  | a :: _, m =>
    match natural? a with
    | some n => { m with status := n, flow := .returns }
    | none => fail "return" true (illegalNumber a) m

def jump (name : String) (flow : Nat → Flow) : Action := fun arguments m =>
  match arguments with
  | [] => if m.loops = 0 then m.withStatus 0 else { m with status := 0, flow := flow 1 }
  | a :: _ =>
    match natural? a with
    | some (n + 1) =>
      if m.loops = 0 then m.withStatus 0
      else { m with status := 0, flow := flow (min (n + 1) m.loops) }
    | _ => fail name true (illegalNumber a) m

def shift : Action := fun arguments m =>
  match arguments with
  | [] => shifted 1 m
  | a :: _ =>
    match natural? a with
    | some n => shifted n m
    | none => fail "shift" true (illegalNumber a) m
where
  shifted (n : Nat) (m : Machine) : Machine :=
    if m.arguments.length < n then fail "shift" true "can't shift that many".toList m
    else { m with arguments := m.arguments.drop n, status := 0 }

def optionNames : List (String × Char) :=
  [("errexit", 'e'), ("noglob", 'f'), ("ignoreeof", 'I'), ("interactive", 'i'), ("monitor", 'm'),
    ("noexec", 'n'), ("stdin", 's'), ("xtrace", 'x'), ("verbose", 'v'), ("vi", 'V'),
    ("emacs", 'E'), ("noclobber", 'C'), ("allexport", 'a'), ("notify", 'b'), ("nounset", 'u'),
    ("privileged", 'p'), ("nolog", 'l'), ("debug", 'd')]

def optionOrder : String := "efIimnsxvVECabu"

def setOption (on : Bool) (c : Char) (m : Machine) : Machine :=
  let given := fun x => if x = c then on else m.has x
  { m with options := optionOrder.toList.filter given }

def setLetters (on : Bool) : Bytes → Machine → Machine
  | [], m => m
  | c :: rest, m =>
    if optionOrder.contains c then setLetters on rest (setOption on c m)
    else fail "set" true (illegalOption c) m

def quoted (text : Bytes) : Bytes :=
  '\'' :: (text.flatMap fun c => if c = '\'' then "'\"'\"'".toList else [c]) ++ ['\'']

def sorted (vs : List Variable) : List Variable :=
  vs.mergeSort fun a b => (compareBytes a.name b.name).isLE

def listing (lead : String) (vs : List Variable) : Bytes :=
  (sorted vs).flatMap fun v =>
    lead.toList ++ v.name ++ (match v.value with
      | some value => '=' :: quoted value
      | none => []) ++ ['\n']

def optionListing (m : Machine) : Bytes :=
  "Current option settings\n".toList ++ optionNames.flatMap fun (name, c) =>
    leftAligned 16 name.toList ++ (if m.has c then "on\n" else "off\n").toList

def set : Nat → Action
  | 0, _, m => m
  | _ + 1, [], m => m
  | n + 1, a :: rest, m =>
    match a with
    | ['-', '-'] => { m with arguments := rest }
    | ['-'] => if rest.isEmpty then m else { m with arguments := rest }
    | sign :: letters =>
      if sign ≠ '-' && sign ≠ '+' then { m with arguments := a :: rest }
      else if letters = ['o'] then
        match rest with
        | [] => if sign = '-' then m.write 1 (optionListing m) else m
        | name :: rest =>
          match optionNames.lookup (String.ofList name) with
          | some c => set n rest (setOption (sign = '-') c m)
          | none => fail "set" true (illegalOption 'o' ++ ' ' :: name) m
      else
        let m := setLetters (sign = '-') letters m
        if m.goesOn then set n rest m else m
    | [] => { m with arguments := a :: rest }

def setCommand : Action := fun arguments m =>
  if arguments.isEmpty then
    (m.write 1 (listing "" (m.bindings.filter (·.value.isSome)))).withStatus 0
  else set (arguments.length + 1) arguments (m.withStatus 0)

def splitAssignment (a : Bytes) : Bytes × Option Bytes :=
  let name := a.takeWhile (· ≠ '=')
  (name, if name.length < a.length then some (a.drop (name.length + 1)) else none)

def mark (command : String) (change : Variable → Variable) : Action
  | [], m => m
  | a :: rest, m =>
    let (name, value) := splitAssignment a
    if !isName name then fail command true (name ++ ": bad variable name".toList) m
    else
      let m := match value with
        | some value => m.assign name value
        | none => m
      if !m.goesOn then m
      else
        let v := (m.binding? name).getD ⟨name, none, false, false⟩
        mark command change rest (m.putVariable (change v))

def exportNames : Action := fun arguments m =>
  let arguments := if arguments.head? = some ['-', 'p'] then arguments.drop 1 else arguments
  if arguments.isEmpty then
    (m.write 1 (listing "export " (m.bindings.filter (·.exported)))).withStatus 0
  else mark "export" (fun v => { v with exported := true }) arguments (m.withStatus 0)

def readonly : Action := fun arguments m =>
  let arguments := if arguments.head? = some ['-', 'p'] then arguments.drop 1 else arguments
  if arguments.isEmpty then
    (m.write 1 (listing "readonly " (m.bindings.filter (·.fixed)))).withStatus 0
  else mark "readonly" (fun v => { v with fixed := true }) arguments (m.withStatus 0)

def hide : Action
  | [], m => m
  | a :: rest, m =>
    match m.hidden with
    | none => fail "local" true "not in a function".toList m
    | some hidden =>
      let (name, value) := splitAssignment a
      if name = ['-'] then hide rest m
      else if !isName name then fail "local" true (name ++ ": bad variable name".toList) m
      else
        let known := hidden.any (·.1 = name)
        let m := if known then m
          else { m with hidden := some ((name, m.binding? name) :: hidden) }
        let m := match value with
          | some value => m.assign name value
          | none => m
        if m.goesOn then hide rest m else m

def localCommand : Action := fun arguments m =>
  match m.hidden with
  | none => fail "local" true "not in a function".toList m
  | some _ => hide arguments (m.withStatus 0)

def unset : Action := fun arguments m =>
  match arguments with
  | ['-', 'f'] :: names =>
    { m with functions := m.functions.filter fun f => !names.contains f.1, status := 0 }
  | ['-', 'v'] :: names => remove names (m.withStatus 0)
  | ('-' :: c :: _) :: _ => fail "unset" true (illegalOption c) m
  | names => remove names (m.withStatus 0)
where
  remove : List Bytes → Machine → Machine
    | [], m => m
    | name :: rest, m =>
      match m.binding? name with
      | some v =>
        if v.fixed then fail "unset" true (name ++ ": is read only".toList) m
        else remove rest (m.removeVariable name)
      | none => remove rest m

def absolute (directory name : Bytes) : Bytes :=
  let whole := if name.head? = some '/' then name else directory ++ '/' :: name
  let parts := (cutAt '/' whole).foldl (fun kept part =>
    if part.isEmpty || part = ['.'] then kept
    else if part = ['.', '.'] then kept.dropLast
    else kept ++ [part]) []
  '/' :: ['/'].intercalate parts

def workingName (m : Machine) : Bytes :=
  Bytes.ofString (FileTree.pathOf m.tree.workingPlace).text

def cd : Action := fun arguments m =>
  let arguments := arguments.filter fun a => !(["-L", "-P", "--"].contains (String.ofList a))
  let before := (m.value? "PWD".toList).getD (workingName m)
  let target? := match arguments with
    | [] => m.value? "HOME".toList
    | ['-'] :: _ => m.value? "OLDPWD".toList
    | a :: _ => some a
  match target? with
  | none => m.withStatus 0
  | some [] => m.withStatus 0
  | some target =>
    let place? := do
      let p ← Machine.path? target
      let place ← (m.tree.locate .follow p).toOption
      if m.tree.isDirectoryAt place then some place else none
    match place? with
    | none => fail "cd" false ("can't cd to ".toList ++ target) m
    | some place =>
      let now := absolute before target
      let m := { m with tree := { m.tree with workingPlace := place } }
      let m := (m.assign "OLDPWD".toList before).assign "PWD".toList now
      (if arguments.head? = some ['-'] then m.write 1 (now ++ ['\n']) else m).withStatus 0

def pwd : Action := fun _ m =>
  (m.write 1 ((m.value? "PWD".toList).getD (workingName m) ++ ['\n'])).withStatus 0

/-- Takes a line from a text: its glyphs, what follows it, and whether it had an end. Unless told
otherwise, backslashes join lines and keep characters. The number bounds the characters. -/
def takeGlyphs (raw : Bool) : Nat → Bytes → List Glyph × Bytes × Bool
  | 0, rest => ([], rest, false)
  | _ + 1, [] => ([], [], false)
  | n + 1, c :: rest =>
    if c = '\n' then ([], rest, true)
    else if c = '\\' && !raw then
      match rest with
      | '\n' :: rest => takeGlyphs raw n rest
      | d :: rest =>
        let (gs, rest, ended) := takeGlyphs raw n rest
        (⟨d, true⟩ :: gs, rest, ended)
      | [] => ([], [], false)
    else
      let (gs, rest, ended) := takeGlyphs raw n rest
      if c = '\x00' then (gs, rest, ended) else (⟨c, false⟩ :: gs, rest, ended)

def separates (separators : Bytes) (g : Glyph) : Bool :=
  !g.literal && separators.contains g.char

/-- How much of the last field is kept: `cutAt` is where it may end, if nothing but separators
follows, and `afterBlank` tells whether they have only been blanks. -/
def lastLength (separators : Bytes) :
    Nat → (cutAt : Option Nat) → (inRest afterBlank : Bool) → List Glyph → Nat
  | i, cutAt, _, _, [] => cutAt.getD i
  | i, cutAt, inRest, afterBlank, g :: rest =>
    let separator := separates separators g
    let blank := separator && isFieldBlank g.char
    if inRest then
      if blank then lastLength separators (i + 1) (cutAt.or (some i)) true afterBlank rest
      else if separator && afterBlank then lastLength separators (i + 1) cutAt true false rest
      else lastLength separators (i + 1) none true false rest
    else if separator then lastLength separators (i + 1) (some i) true blank rest
    else lastLength separators (i + 1) cutAt false false rest

def readFields (separators : Bytes) : Nat → List Glyph → List Bytes
  | 0, _ => []
  | n + 1, gs =>
    let gs := gs.dropWhile fun g => separates separators g && isFieldBlank g.char
    if n = 0 then [Glyph.text (gs.take (lastLength separators 0 none false false gs))]
    else
      let field := gs.takeWhile fun g => !separates separators g
      match gs.drop field.length with
      | [] => Glyph.text field :: List.replicate n []
      | g :: rest =>
        Glyph.text field ::
          readFields separators n
            (FieldSplit.skipSeparators separators (isFieldBlank g.char) rest)

def read : Action := fun arguments m =>
  match arguments with
  | ['-', 'r'] :: rest => readInto true rest m
  | ['-', 'p'] :: prompt :: rest => readWith (m.write 2 prompt) rest
  | rest => readWith m rest
where
  readWith (m : Machine) : List Bytes → Machine
    | ['-', 'r'] :: rest => readInto true rest m
    | ['-', '-'] :: rest => readInto false rest m
    | ('-' :: c :: _) :: _ => fail "read" false (illegalOption c) m
    | rest => readInto false rest m
  readInto (raw : Bool) (names : List Bytes) (m : Machine) : Machine :=
    if names.isEmpty then fail "read" false "arg count".toList m
    else
      match names.find? fun name => !isName name with
      | some name => fail "read" false (name ++ ": bad variable name".toList) m
      | none =>
        let text := m.input 0
        let (gs, rest, ended) := takeGlyphs raw (text.length + 1) text
        let m := m.leave 0 rest.length
        let values := readFields m.separators names.length gs
        let m := (names.zip values).foldl (fun m (name, value) => m.assign name value) m
        if m.goesOn then m.withStatus (if ended then 0 else 1) else m

/-- Reads the options of arguments one after the other. -/
def getopts : Action := fun arguments m =>
  match arguments with
  | spec :: name :: given =>
    let operands := if given.isEmpty then m.arguments else given
    let index := ((m.value? "OPTIND".toList).bind natural?).getD 1
    let silent := spec.head? = some ':'
    let finish (m : Machine) :=
      ((m.assign "OPTIND".toList (natText index)).assign name ['?']).withStatus 1
    match operands[index - 1]? with
    | none => finish m
    | some a =>
      let offset := if m.optionOffset = 0 then 1 else m.optionOffset
      if m.optionOffset = 0 && (a.head? ≠ some '-' || a.length < 2) then finish m
      else if m.optionOffset = 0 && a = ['-', '-'] then
        ((m.assign "OPTIND".toList (natText (index + 1))).assign name ['?']).withStatus 1
      else
        match a[offset]? with
        | none => finish m
        | some c =>
          let last := a.length ≤ offset + 1
          let (nextIndex, nextOffset) := if last then (index + 1, 0) else (index, offset + 1)
          let set (m : Machine) (index offset : Nat) (letter : Bytes) (value : Option Bytes) :=
            let m := (m.assign "OPTIND".toList (natText index)).assign name letter
            let m := match value with
              | some value => m.assign "OPTARG".toList value
              | none => m.removeVariable "OPTARG".toList
            { m with optionOffset := offset, status := 0 }
          match (spec.dropWhile fun x => x ≠ c || x = ':') with
          | [] =>
            if silent then set m nextIndex nextOffset ['?'] (some [c])
            else set (m.write 2 (illegalOption c ++ ['\n'])) nextIndex nextOffset ['?'] none
          | _ :: ':' :: _ =>
            if !last then set m (index + 1) 0 [c] (some (a.drop (offset + 1)))
            else
              match operands[index]? with
              | some value => set m (index + 2) 0 [c] (some value)
              | none =>
                if silent then set m (index + 1) 0 [':'] (some [c])
                else
                  set (m.write 2 ("No arg for -".toList ++ [c] ++ " option\n".toList)) (index + 1) 0
                    ['?'] none
          | _ => set m nextIndex nextOffset [c] none
  | _ => fail "getopts" false "Usage: getopts optstring var [arg...]".toList m

def trapLines (m : Machine) : Bytes :=
  (m.traps.mergeSort fun a b => a.1 ≤ b.1).flatMap fun (signal, action) =>
    "trap -- ".toList ++ quoted action ++ ' ' :: Signal.name signal ++ ['\n']

def trap : Action := fun arguments m =>
  let arguments := if arguments.head? = some ['-', '-'] then arguments.drop 1 else arguments
  let set (action : Option Bytes) (names : List Bytes) : Machine :=
    match names.mapM Signal.number? with
    | none => (m.complain "trap: bad trap".toList).withStatus 1
    | some signals =>
      let others := m.traps.filter fun (signal, _) => !signals.contains signal
      { m with
        traps := (action.map fun a => signals.map fun signal => (signal, a)).getD [] ++ others
        status := 0 }
  match arguments with
  | [] => (m.write 1 (trapLines m)).withStatus 0
  | ['-'] :: names => set none names
  | [name] => set none [name]
  | action :: names =>
    if !action.isEmpty && action.all Char.isDigit then set none (action :: names)
    else set (some action) names

def killOperands : List Bytes → Option Nat × List Bytes
  | ['-', 's'] :: name :: rest => (Signal.number? name, rest)
  | ['-', '-'] :: rest => (some Signal.termNumber, rest)
  | ('-' :: name) :: rest => (Signal.number? name, rest)
  | rest => (some Signal.termNumber, rest)

def kill : Action := fun arguments m =>
  match arguments with
  | ['-', 'l'] :: _ => m.withStatus 0
  | arguments =>
    match killOperands arguments with
    | (none, _) => m.abort "kill: invalid signal number or name".toList
    | (some _, []) => m.abort "Usage: kill".toList
    | (some signal, targets) =>
      let targets := if targets.head? = some ['-', '-'] then targets.drop 1 else targets
      targets.foldl (fun m target =>
        if target = Machine.processNumber then m.deliver signal
        else if (m.jobs.lookup target).isSome then m
        else (m.complain "kill: No such process".toList).withStatus 1) (m.withStatus 0)

def wait : Action := fun arguments m =>
  m.withStatus (match arguments.getLast? with
    | none => 0
    | some number => (m.jobs.lookup number).getD 127)

def echo : Action := fun arguments m =>
  (m.write 1 (echoText arguments)).withStatus 0

def printf : Action := fun arguments m =>
  let arguments := if arguments.head? = some ['-', '-'] then arguments.drop 1 else arguments
  match arguments with
  | [] => fail "printf" false "usage: printf format [arg ...]".toList m
  | ('-' :: c :: _) :: _ => fail "printf" false (illegalOption c) m
  | format :: arguments =>
    let s := formatted format arguments
    let m := s.complaints.foldl (fun m text => m.complain ("printf: ".toList ++ text)) m
    (m.write 1 s.output).withStatus (if s.failed then 2 else if s.complaints.isEmpty then 0 else 1)

def test (name : String) : Action := fun arguments m =>
  match Condition.evaluate m.tree arguments with
  | .ok value => m.withStatus (if value then 0 else 1)
  | .error message => fail name false message m

def bracket : Action := fun arguments m =>
  if arguments.getLast? = some [']'] then test "[" arguments.dropLast m
  else fail "[" false "missing ]".toList m

def idle (status : Nat) : Action := fun _ m => m.withStatus status

def umask : Action := fun arguments m =>
  (if arguments.isEmpty then m.write 1 "0022\n".toList else m).withStatus 0

def special? (name : Bytes) : Option Action :=
  [(":", idle 0), ("break", jump "break" .breaks), ("continue", jump "continue" .continues),
    ("exit", exit), ("export", exportNames), ("readonly", readonly), ("return", leave),
    ("set", setCommand), ("shift", shift), ("times", idle 0), ("trap", trap),
    ("unset", unset)].lookup (String.ofList name)

def regular? (name : Bytes) : Option Action :=
  [("true", idle 0), ("false", idle 1), ("cd", cd), ("chdir", cd), ("pwd", pwd), ("read", read),
    ("local", localCommand), ("getopts", getopts), ("kill", kill), ("echo", echo),
    ("printf", printf), ("test", test "test"), ("[", bracket), ("umask", umask),
    ("ulimit", idle 0), ("wait", wait), ("jobs", idle 0), ("hash", idle 0), ("alias", idle 0),
    ("unalias", idle 0), ("bg", idle 2), ("fg", idle 2)].lookup (String.ofList name)

def carriers : List String := [".", "eval", "exec", "command", "type"]

def isSpecial (name : Bytes) : Bool :=
  (special? name).isSome || [".", "eval", "exec"].contains (String.ofList name)

def isBuiltin (name : Bytes) : Bool :=
  (special? name).isSome || (regular? name).isSome || carriers.contains (String.ofList name)

end Builtin

end LintEngine.Shell
