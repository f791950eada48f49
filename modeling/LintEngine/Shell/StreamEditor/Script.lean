import LintEngine.Shell.Regex

namespace LintEngine.Shell.StreamEditor

open Number

inductive Address where
  | line (n : Nat)
  | every (first step : Nat)
  | last
  | matching (r : Option Regex) (mode : Regex.Mode)

inductive RangeEnd where
  | address (a : Address)
  | after (n : Nat)
  | multiple (n : Nat)

structure Selector where
  first : Option Address
  openAtStart : Bool
  stop : Option RangeEnd
  negated : Bool

inductive ReplacementPart where
  | text (bytes : Bytes)
  | group (number : Nat)
  | case (mark : Char)

structure Substitution where
  expression : Option Regex
  mode : Regex.Mode
  replacement : List ReplacementPart
  everywhere : Bool
  number : Nat
  prints : Bool
  runs : Bool
  file : Option Bytes

inductive BranchKind where
  | always
  | substituted
  | notSubstituted

/-- A command. -/
inductive Instruction where
  | block (after : Nat)
  | close
  | label (name : Bytes)
  | branch (kind : BranchKind) (label : Bytes) (target : Nat)
  | append (text : Bytes)
  | insert (text : Bytes)
  | change (text : Bytes)
  | delete
  | deleteFirst
  | execute (command : Bytes)
  | fileName
  | get
  | getAppend
  | hold
  | holdAppend
  | list (width : Option Nat)
  | next
  | nextAppend
  | print
  | printFirst
  | quit (status : Nat)
  | quitSilently (status : Nat)
  | readFile (name : Bytes)
  | readLine (name : Bytes)
  | substitute (s : Substitution)
  | writeFile (name : Bytes)
  | writeFirst (name : Bytes)
  | exchange
  | translate (pairs : List (Char × Char))
  | zap
  | number
  | nothing

structure Step where
  selector : Selector
  instruction : Instruction

inductive Fault where
  | malformed (message : String)
  | missingLabel (name : Bytes)

abbrev Reader := StateT Bytes (Except Fault)

def refuse {α : Type} (message : String) : Reader α :=
  throw (.malformed message)

/-- Replaces what backslashes with letters or numbers stand for, other than signs of expressions.
The number bounds the characters. -/
def normalize (literally : Char → Bytes) : Nat → Bytes → Bytes
  | 0, text => text
  | _ + 1, [] => []
  | n + 1, '\\' :: c :: rest =>
    let given (found : Option (Char × Bytes)) : Bytes :=
      match found with
      | some (x, after) => literally x ++ normalize literally n after
      | none => '\\' :: c :: normalize literally n rest
    match c with
    | 'a' | 'f' | 'n' | 'r' | 't' | 'v' =>
      ((controlChar? c).toList) ++ normalize literally n rest
    | 'd' => given (Regex.numbered? 10 3 rest)
    | 'o' => given (Regex.numbered? 8 3 rest)
    | 'x' => given (Regex.numbered? 16 2 rest)
    | 'c' =>
      match rest with
      | x :: after => literally (byteChar (x.toUpper.toNat ^^^ 0x40)) ++ normalize literally n after
      | [] => ['\\', c]
    | c => '\\' :: c :: normalize literally n rest
  | n + 1, c :: rest => c :: normalize literally n rest

def normalizeRegex (text : Bytes) : Bytes :=
  normalize (fun c => [c]) (text.length + 1) text

/-- Takes the members of a set in an expression up to its closing bracket. The number bounds them.
-/
def takeSet : Nat → Bool → Bytes → Option (Bytes × Bytes)
  | 0, _, _ => none
  | _ + 1, _, [] => none
  | n + 1, first, c :: rest =>
    if c = ']' && !first then some ([']'], rest)
    else if c = '\n' then none
    else
      match c, rest with
      | '[', k :: more =>
        if k = ':' || k = '.' || k = '=' then
          let inside := more.takeWhile (· ≠ k)
          match more.drop inside.length with
          | _ :: ']' :: after =>
            (takeSet n false after).map fun (taken, rest) =>
              ('[' :: k :: inside ++ k :: ']' :: taken, rest)
          | _ => (takeSet n false rest).map fun (taken, rest) => (c :: taken, rest)
        else (takeSet n false rest).map fun (taken, rest) => (c :: taken, rest)
      | c, rest => (takeSet n false rest).map fun (taken, rest) => (c :: taken, rest)

/-- Takes text up to a delimiter. In an expression, a delimiter in a set does not count. The number
bounds the characters. -/
def takeDelimited (delimiter : Char) (isRegex : Bool) : Nat → Bytes → Option (Bytes × Bytes)
  | 0, _ => none
  | _ + 1, [] => none
  | n + 1, c :: rest =>
    let continued (taken rest : Bytes) :=
      (takeDelimited delimiter isRegex n rest).map fun (more, after) => (taken ++ more, after)
    if c = delimiter then some ([], rest)
    else if c = '\n' then none
    else if c = '\\' then
      match rest with
      | [] => none
      | d :: rest =>
        if d = delimiter && (isRegex || d ≠ '&') then continued [d] rest
        else if d = '\n' then continued (if isRegex then ['\n'] else ['\\', '\n']) rest
        else continued ['\\', d] rest
    else if c = '[' && isRegex then
      let (lead, inside) := match rest with
        | '^' :: inside => (['[', '^'], inside)
        | inside => (['['], inside)
      match takeSet (inside.length + 1) true inside with
      | some (taken, rest) => continued (lead ++ taken) rest
      | none => none
    else continued [c] rest

def delimited (delimiter : Char) (isRegex : Bool) (message : String) : Reader Bytes := do
  let text ← get
  match takeDelimited delimiter isRegex (text.length + 1) text with
  | some (taken, rest) =>
    set rest
    return taken
  | none => refuse message

def expression (extended : Bool) (text : Bytes) : Reader (Option Regex) :=
  if text.isEmpty then return none
  else
    match Regex.parse? (.editor extended) (normalizeRegex text) with
    | some r => return some r
    | none => refuse "Invalid regular expression"

def skipBlanks : Reader Unit := modify (·.dropWhile isBlank)

def skipSpaces : Reader Unit := modify (·.dropWhile isSpace)

def number? : Reader (Option Nat) := do
  let digits := (← get).takeWhile Char.isDigit
  modify (·.drop digits.length)
  return if digits.isEmpty then none else some (ofDigits digits)

def addressFlags : Nat → Regex.Mode → Reader Regex.Mode
  | 0, mode => return mode
  | n + 1, mode => do
    match ← get with
    | 'I' :: rest =>
      set rest
      addressFlags n { mode with ignoreCase := true }
    | 'M' :: rest =>
      set rest
      addressFlags n { mode with multiline := true }
    | _ => return mode

def address? (extended : Bool) : Reader (Option Address) := do
  match ← get with
  | '$' :: rest =>
    set rest
    return some .last
  | '/' :: rest =>
    set rest
    let r ← expression extended (← delimited '/' true "unterminated address regex")
    return some (.matching r (← addressFlags 8 .plain))
  | '\\' :: delimiter :: rest =>
    set rest
    let r ← expression extended (← delimited delimiter true "unterminated address regex")
    return some (.matching r (← addressFlags 8 .plain))
  | _ =>
    match ← number? with
    | none => return none
    | some n =>
      match ← get with
      | '~' :: rest =>
        set rest
        let step ← number?
        return some (.every n (step.getD 0))
      | _ => return some (.line n)

def rangeEnd (extended : Bool) : Reader RangeEnd := do
  match ← get with
  | '+' :: rest =>
    set rest
    match ← number? with
    | some n => return .after n
    | none => refuse "expected number"
  | '~' :: rest =>
    set rest
    match ← number? with
    | some n => return .multiple n
    | none => refuse "expected number"
  | _ =>
    match ← address? extended with
    | some a => return .address a
    | none => refuse "unexpected `,'"

def isZero : Address → Bool
  | .line 0 => true
  | _ => false

def selector (extended : Bool) : Reader Selector := do
  let first ← address? extended
  skipBlanks
  let stop ← match first, ← get with
    | some _, ',' :: rest => do
      set rest
      skipBlanks
      pure (some (← rangeEnd extended))
    | _, _ => pure none
  let zero := first.any isZero
  let toExpression := match stop with
    | some (.address (.matching _ _)) => true
    | _ => false
  if zero && !toExpression then refuse "invalid usage of line address 0"
  else
    skipSpaces
    match ← get with
    | '!' :: rest =>
      set rest
      skipSpaces
      if (← get).head? = some '!' then refuse "multiple `!'s"
      else return ⟨first, zero, stop, true⟩
    | _ => return ⟨first, zero, stop, false⟩

def commandEnd : Reader Unit := do
  skipBlanks
  match ← get with
  | [] => return ()
  | c :: rest =>
    if c = '\n' || c = ';' then set rest
    else if c = '\x7d' || c = '#' then return ()
    else if c = '\r' && rest.head? = some '\n' then set (rest.drop 1)
    else refuse "extra characters after command"

def lineRest : Reader Bytes := do
  let text := (← get).takeWhile (· ≠ '\n')
  modify (·.drop (text.length + 1))
  return text

def fileName : Reader Bytes := do
  skipBlanks
  let name ← lineRest
  if name.isEmpty then refuse "missing filename in r/R/w/W commands" else return name

def label : Reader Bytes := do
  skipBlanks
  let name := (← get).takeWhile fun c => !isSpace c && c ≠ ';' && c ≠ '\x7d'
  modify (·.drop name.length)
  return name

/-- Takes the text of a command up to a line end without a backslash before it. The number bounds
the characters. -/
def takeText : Nat → Bytes → Bytes × Bytes
  | 0, text => (text, [])
  | _ + 1, [] => ([], [])
  | n + 1, '\\' :: c :: rest =>
    let (taken, rest) := takeText n rest
    ('\\' :: c :: taken, rest)
  | _ + 1, ['\\'] => ([], [])
  | n + 1, c :: rest =>
    if c = '\n' then ([], rest)
    else
      let (taken, rest) := takeText n rest
      (c :: taken, rest)

def dropBackslashes : Bytes → Bytes
  | '\\' :: c :: rest => c :: dropBackslashes rest
  | c :: rest => c :: dropBackslashes rest
  | [] => []

def commandText : Reader Bytes := do
  skipBlanks
  match ← get with
  | [] => refuse "expected \\ after `a', `c' or `i'"
  | '\\' :: rest =>
    let start := match rest.dropWhile isBlank with
      | '\n' :: after => some after
      | [] => some []
      | _ => none
    match start with
    | some after => finish after
    | none => finish rest
  | text => finish text
where
  finish (text : Bytes) : Reader Bytes := do
    if text.isEmpty then
      set ([] : Bytes)
      return []
    else
      let (taken, rest) := takeText (text.length + 1) text
      set rest
      let literally (c : Char) := if c = '\\' then ['\\', '\\'] else [c]
      return dropBackslashes (normalize literally (taken.length + 1) taken) ++ ['\n']

def replacementParts : Nat → Bytes → List ReplacementPart
  | 0, _ => []
  | _ + 1, [] => []
  | n + 1, '&' :: rest => .group 0 :: replacementParts n rest
  | n + 1, '\\' :: c :: rest =>
    if c.isDigit then .group (c.toNat - '0'.toNat) :: replacementParts n rest
    else if "LUElu".contains c then .case c :: replacementParts n rest
    else if c = 'c' && rest.isEmpty then [.text ['\\']]
    else .text [c] :: replacementParts n rest
  | n + 1, c :: rest => .text [c] :: replacementParts n rest

def groupCount : Regex → Nat
  | .group _ r => groupCount r + 1
  | .times r _ _ => groupCount r
  | .seq a b => groupCount a + groupCount b
  | .alt a b => groupCount a + groupCount b
  | _ => 0

/-- Reads the letters after a substitution. The number bounds them. -/
def substitutionFlags : Nat → Substitution → Reader Substitution
  | 0, s => return s
  | n + 1, s => do
    match ← get with
    | [] => return s
    | c :: rest =>
      if c = 'g' then
        if s.everywhere then refuse "multiple `g' options to `s' command"
        else
          set rest
          substitutionFlags n { s with everywhere := true }
      else if c = 'p' then
        if s.prints then refuse "multiple `p' options to `s' command"
        else
          set rest
          substitutionFlags n { s with prints := true }
      else if c = 'i' || c = 'I' then
        set rest
        substitutionFlags n { s with mode := { s.mode with ignoreCase := true } }
      else if c = 'm' || c = 'M' then
        set rest
        substitutionFlags n { s with mode := { s.mode with multiline := true } }
      else if c = 'e' then
        set rest
        substitutionFlags n { s with runs := true }
      else if c.isDigit then
        match ← number? with
        | some 0 => refuse "number option to `s' command may not be zero"
        | some k =>
          if s.number ≠ 0 then refuse "multiple number options to `s' command"
          else substitutionFlags n { s with number := k }
        | none => return s
      else if c = 'w' then
        set rest
        return { s with file := some (← fileName) }
      else if isBlank c then
        set rest
        substitutionFlags n s
      else if c = '\n' || c = ';' then
        set rest
        return s
      else if c = '\x7d' || c = '#' then return s
      else refuse "unknown option to `s'"

def substitution (extended : Bool) : Reader Instruction := do
  match ← get with
  | [] => refuse "unterminated `s' command"
  | delimiter :: rest =>
    if delimiter = '\n' then refuse "unterminated `s' command"
    else
      set rest
      let r ← expression extended (← delimited delimiter true "unterminated `s' command")
      let text ← delimited delimiter false "unterminated `s' command"
      let literally (c : Char) := if c = '&' || c = '\\' then ['\\', c] else [c]
      let text := normalize literally (text.length + 1) text
      let parts := replacementParts (text.length + 1) text
      let highest := parts.foldl (fun n part => match part with
        | .group k => max n k
        | _ => n) 0
      if r.any (groupCount · < highest) then refuse "invalid reference on `s' command's RHS"
      else
        let s ← substitutionFlags ((← get).length + 1)
          ⟨r, .plain, parts, false, 0, false, false, none⟩
        if r.isNone && (s.mode.ignoreCase || s.mode.multiline) then
          refuse "cannot specify modifiers on empty regexp"
        else return .substitute s

def transliterated : Nat → Bytes → Bytes
  | 0, _ => []
  | _ + 1, [] => []
  | n + 1, '\\' :: c :: rest => c :: transliterated n rest
  | n + 1, c :: rest => c :: transliterated n rest

def transliteration : Reader Instruction := do
  match ← get with
  | [] => refuse "unterminated `y' command"
  | delimiter :: rest =>
    set rest
    let literally (c : Char) := if c = '\\' then ['\\', '\\'] else [c]
    let chars (text : Bytes) :=
      transliterated (text.length + 1) (normalize literally (text.length + 1) text)
    let first := chars (← delimited delimiter false "unterminated `y' command")
    let second := chars (← delimited delimiter false "unterminated `y' command")
    if first.length ≠ second.length then
      refuse "strings for `y' command are different lengths"
    else
      commandEnd
      return .translate (first.zip second)

def plain (i : Instruction) : Reader Instruction := do
  commandEnd
  return i

def withNumber (f : Option Nat → Instruction) : Reader Instruction := do
  skipBlanks
  let n ← number?
  plain (f n)

/-- Reads a command after its lines. -/
def instruction (extended : Bool) (s : Selector) : Reader Instruction := do
  match ← get with
  | [] => refuse "missing command"
  | c :: rest =>
    set rest
    let once (body : Reader Instruction) : Reader Instruction :=
      if s.stop.isSome then refuse "command only uses one address" else body
    match c with
    | '\x7b' => return .block 0
    | '\x7d' =>
      if s.first.isSome then refuse "\x7d doesn't want any addresses" else plain .close
    | ':' =>
      if s.first.isSome then refuse ": doesn't want any addresses"
      else
        let name ← label
        if name.isEmpty then refuse "\":\" lacks a label"
        else
          modify fun text => if text.head? = some ';' then text.drop 1 else text
          return .label name
    | 'b' =>
      let name ← label
      plain (.branch .always name 0)
    | 't' =>
      let name ← label
      plain (.branch .substituted name 0)
    | 'T' =>
      let name ← label
      plain (.branch .notSubstituted name 0)
    | 'a' => return .append (← commandText)
    | 'i' => return .insert (← commandText)
    | 'c' => return .change (← commandText)
    | 'd' => plain .delete
    | 'D' => plain .deleteFirst
    | 'e' =>
      skipBlanks
      return .execute (← lineRest)
    | 'F' => plain .fileName
    | 'g' => plain .get
    | 'G' => plain .getAppend
    | 'h' => plain .hold
    | 'H' => plain .holdAppend
    | 'l' => withNumber .list
    | 'n' => plain .next
    | 'N' => plain .nextAppend
    | 'p' => plain .print
    | 'P' => plain .printFirst
    | 'q' => once (withNumber fun n => .quit (n.getD 0))
    | 'Q' => once (withNumber fun n => .quitSilently (n.getD 0))
    | 'r' => return .readFile (← fileName)
    | 'R' => return .readLine (← fileName)
    | 's' => substitution extended
    | 'v' =>
      let _ ← lineRest
      return .nothing
    | 'w' => return .writeFile (← fileName)
    | 'W' => return .writeFirst (← fileName)
    | 'x' => plain .exchange
    | 'y' => transliteration
    | 'z' => plain .zap
    | '=' => plain .number
    | _ => refuse "unknown command"

def skipBetween : Nat → Reader Unit
  | 0 => return ()
  | n + 1 => do
    match ← get with
    | [] => return ()
    | c :: rest =>
      if isSpace c || c = ';' then
        set rest
        skipBetween n
      else if c = '#' then
        let _ ← lineRest
        skipBetween n
      else return ()

def steps (extended : Bool) : Nat → Nat → Reader (List Step)
  | 0, _ => return []
  | n + 1, depth => do
    skipBetween ((← get).length + 1)
    if (← get).isEmpty then
      if depth = 0 then return [] else refuse "unmatched `\x7b'"
    else
      let s ← selector extended
      let closes := (← get).head? = some '\x7d'
      if closes && depth = 0 then refuse "unexpected `\x7d'"
      else
        let i ← instruction extended s
        let depth := match i with
          | .block _ => depth + 1
          | _ => if closes then depth - 1 else depth
        return ⟨s, i⟩ :: (← steps extended n depth)

def blockEnd : Nat → Nat → List Step → Nat
  | place, _, [] => place
  | place, depth, s :: rest =>
    match s.instruction with
    | .block _ => blockEnd (place + 1) (depth + 1) rest
    | .close => if depth = 0 then place + 1 else blockEnd (place + 1) (depth - 1) rest
    | _ => blockEnd (place + 1) depth rest

def labelPlace? (all : List Step) (name : Bytes) : Option Nat :=
  all.findIdx? fun s => match s.instruction with
    | .label n => n = name
    | _ => false

def link (all : List Step) : Nat → List Step → Except Fault (List Step)
  | _, [] => .ok []
  | place, s :: rest => do
    let i ← match s.instruction with
      | .block _ => pure (.block (blockEnd (place + 1) 0 rest))
      | .branch kind name _ =>
        if name.isEmpty then pure (.branch kind name all.length)
        else
          match labelPlace? all name with
          | some target => pure (.branch kind name target)
          | none => .error (.missingLabel name)
      | i => pure i
    .ok ({ s with instruction := i } :: (← link all (place + 1) rest))

def parse (extended : Bool) (text : Bytes) : Except Fault (List Step) := do
  let (found, _) ← (steps extended (text.length + 2) 0).run text
  link found 0 found

end LintEngine.Shell.StreamEditor
