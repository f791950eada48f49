import LintEngine.Shell.Regex
import LintEngine.Shell.Utility.Concatenate

namespace LintEngine.Shell

open Number

namespace Count

structure Counts where
  lines : Nat
  words : Nat
  bytes : Nat
  width : Nat

def columns (line : Bytes) : Nat :=
  line.foldl (fun n c =>
    if c = '\t' then n + (8 - n % 8)
    else if ' ' ≤ c && c ≤ '~' then n + 1
    else n) 0

def widest (text : Bytes) : Nat :=
  let parts := (cutAt '\n' text).flatMap fun line =>
    (cutAt '\r' line).flatMap fun part => cutAt '\x0c' part
  parts.foldl (fun n part => max n (columns part)) 0

def isPrintedWord (word : Bytes) : Bool := word.any fun c => '!' ≤ c && c ≤ '~'

def ofText (text : Bytes) : Counts :=
  ⟨text.count '\n', ((splitWords isSpace text).filter isPrintedWord).length, text.length,
    widest text⟩

def add (a b : Counts) : Counts :=
  ⟨a.lines + b.lines, a.words + b.words, a.bytes + b.bytes, max a.width b.width⟩

def options : OptionTable where
  letters := OptionTable.flags "clmwL" ++ OptionTable.valued "T"
  names := [("bytes", 'c'), ("chars", 'm'), ("lines", 'l'), ("words", 'w'),
    ("max-line-length", 'L'), ("total", 'T')]

def chosen (p : Parsed) (c : Counts) : List Nat :=
  let all := !p.has 'l' && !p.has 'w' && !p.has 'm' && !p.has 'c' && !p.has 'L'
  (if all || p.has 'l' then [c.lines] else []) ++ (if all || p.has 'w' then [c.words] else []) ++
    (if p.has 'm' then [c.bytes] else []) ++ (if all || p.has 'c' then [c.bytes] else []) ++
    (if p.has 'L' then [c.width] else [])

def countLine (width : Nat) (counts : List Nat) (name : Option Bytes) : Bytes :=
  [' '].intercalate (counts.map fun n => rightAligned width (natText n)) ++
    (match name with
      | some name => ' ' :: name
      | none => []) ++ ['\n']

def regularSize? (tree : FileTree) (name : Bytes) : Option Nat :=
  match (Task.path? name).bind fun p => (tree.lookup p).toOption with
  | some (.file content) => some content.size
  | _ => none

/-- Counts lines, words and bytes. -/
def wc : Utility := fun arguments =>
  Task.withOptions "wc" 1 options arguments fun p => do
    let files := if p.operands.isEmpty then [['-']] else p.operands
    let tree := (← get).tree
    let one := (chosen p ⟨0, 0, 0, 0⟩).length = 1
    let sizes := files.map fun file => if file = ['-'] then none else regularSize? tree file
    let width :=
      if files.length = 1 && one then 1
      else
        let irregular := files.any fun file => file = ['-'] ||
          ((Task.path? file).any fun path => match tree.lookup path with
            | .ok (.file _) => false
            | .ok _ => true
            | .error _ => false)
        let digits := (natText ((sizes.map fun s => s.getD 0).foldl (· + ·) 0)).length
        max digits (if irregular then 7 else 1)
    let mut total : Counts := ⟨0, 0, 0, 0⟩
    let mut good := true
    for file in files do
      let name := if p.operands.isEmpty then none else some file
      match ← Task.readOperand file with
      | .ok text =>
        let c := ofText text
        total := add total c
        Task.print (countLine width (chosen p c) name)
      | .error e =>
        Task.fileFault "wc" file e
        if e = .isDirectory then
          Task.print (countLine width (chosen p ⟨0, 0, 0, 0⟩) name)
        good := false
    if 1 < files.length then
      Task.print (countLine width (chosen p total) (some "total".toList))
    return Task.status good

structure Numbering where
  styles : Nat → Bytes → Bool
  layout : Bytes
  separator : Bytes
  width : Nat
  step : Int
  start : Int
  blanksJoined : Nat
  keepsOn : Bool
  delimiter : Bytes

def numberText (o : Numbering) (i : Int) : Bytes :=
  if o.layout = "ln".toList then leftAligned o.width (intBytes i)
  else if o.layout = "rz".toList then
    let digits := natText i.natAbs
    let sign := if i < 0 then ['-'] else []
    sign ++ List.replicate (o.width - sign.length - digits.length) '0' ++ digits
  else rightAligned o.width (intBytes i)

def styleOf? (style : Bytes) : Option (Bytes → Bool) :=
  match style with
  | ['a'] => some fun _ => true
  | ['t'] => some fun line => !line.isEmpty
  | ['n'] => some fun _ => false
  | 'p' :: pattern =>
    (Regex.parse? (.finder false) pattern).map fun r line => r.occursIn .plain line
  | _ => none

def numberLines (o : Numbering) : Nat → Int → Nat → List Bytes → List Bytes
  | _, _, _, [] => []
  | s, i, blanks, line :: rest =>
    let d := o.delimiter
    if line = d ++ d ++ d then
      [] :: numberLines o 0 (if o.keepsOn then i else o.start) 0 rest
    else if line = d ++ d then
      [] :: numberLines o 1 (if o.keepsOn then i else o.start) 0 rest
    else if line = d then
      [] :: numberLines o 2 (if o.keepsOn then i else o.start) 0 rest
    else
      let numbered := o.styles s line &&
        (!line.isEmpty || blanks + 1 = o.blanksJoined || o.blanksJoined ≤ 1)
      let blanks := if line.isEmpty then
          if blanks + 1 = o.blanksJoined then 0 else blanks + 1
        else 0
      if numbered then
        (numberText o i ++ o.separator ++ line) :: numberLines o s (i + o.step) blanks rest
      else
        (List.replicate (o.width + o.separator.length) ' ' ++ line) ::
          numberLines o s i blanks rest

def nlOptions : OptionTable where
  letters := OptionTable.flags "p" ++ OptionTable.valued "bdfhilnsvw"
  names := [("body-numbering", 'b'), ("section-delimiter", 'd'), ("footer-numbering", 'f'),
    ("header-numbering", 'h'), ("line-increment", 'i'), ("join-blank-lines", 'l'),
    ("number-format", 'n'), ("no-renumber", 'p'), ("number-separator", 's'),
    ("starting-line-number", 'v'), ("number-width", 'w')]

/-- Numbers the lines of files. -/
def nl : Utility := fun arguments =>
  Task.withOptions "nl" 1 nlOptions arguments fun p => do
    let style (c : Char) (standard : String) := styleOf? ((p.value? c).getD standard.toList)
    let number (c : Char) (standard : Int) : Option Int :=
      match p.value? c with
      | some text => Arithmetic.decimal? text
      | none => some standard
    let setting : Option Numbering := do
      let header ← style 'h' "n"
      let body ← style 'b' "t"
      let footer ← style 'f' "n"
      let step ← number 'i' 1
      let start ← number 'v' 1
      let width ← number 'w' 6
      let joined ← number 'l' 1
      let delimiter := match p.value? 'd' with
        | some [c] => [c, ':']
        | some text => text
        | none => ['\\', ':']
      some
        { styles := fun s => if s = 0 then header else if s = 1 then body else footer
          layout := (p.value? 'n').getD "rn".toList
          separator := (p.value? 's').getD ['\t']
          width := width.toNat
          step := step
          start := start
          blanksJoined := joined.toNat
          keepsOn := p.has 'p'
          delimiter := delimiter }
    match setting with
    | none =>
      Task.hint "nl"
      return 1
    | some o =>
      let (text, good) ← Task.readAll "nl" p.operands
      let l := Lines.ofBytes text
      Task.print (Lines.join (numberLines o 1 o.start 0 l.lines))
      return Task.status good

def comparedPart (fields chars : Nat) (width : Option Nat) (ignoreCase : Bool) (line : Bytes) :
    Bytes :=
  let skipField (text : Bytes) :=
    (text.dropWhile isBlank).dropWhile fun c => !isBlank c
  let line := (fields.repeat skipField line).drop chars
  let line := match width with
    | some n => line.take n
    | none => line
  if ignoreCase then line.map Char.toUpper else line

def groups (key : Bytes → Bytes) : List Bytes → List (List Bytes)
  | [] => []
  | line :: rest =>
    match groups key rest with
    | (next :: more) :: others =>
      if key line = key next then (line :: next :: more) :: others
      else [line] :: (next :: more) :: others
    | others => [line] :: others

def uniqOptions : OptionTable where
  letters := OptionTable.flags "cdDiuz" ++ OptionTable.valued "fsw" ++ [('A', .optional)]
  names := [("count", 'c'), ("repeated", 'd'), ("all-repeated", 'A'), ("skip-fields", 'f'),
    ("ignore-case", 'i'), ("skip-chars", 's'), ("unique", 'u'), ("zero-terminated", 'z'),
    ("check-chars", 'w')]

def uniq : Utility := fun arguments =>
  Task.withOptions "uniq" 1 uniqOptions arguments fun p => do
    let number (c : Char) : Nat := ((p.value? c).map ofDigits).getD 0
    let input := p.operands.head?.getD ['-']
    match ← Task.readOperand input with
    | .error e =>
      Task.fileFault "uniq" input e
      return 1
    | .ok text =>
      let terminator := if p.has 'z' then '\x00' else '\n'
      let key := comparedPart (number 'f') (number 's') ((p.value? 'w').map ofDigits) (p.has 'i')
      let all := p.has 'D' || p.has 'A'
      let kept := (groups key (Lines.ofRecords terminator text).lines).flatMap fun group =>
        if all then if 1 < group.length then group else []
        else if (p.has 'd' && group.length ≤ 1) || (p.has 'u' && 1 < group.length) then []
        else
          let line := group.head?.getD []
          [if p.has 'c' then rightAligned 7 (natText group.length) ++ ' ' :: line else line]
      let output := kept.flatMap fun line => line ++ [terminator]
      match p.operands.drop 1 with
      | file :: _ =>
        if file = ['-'] then Task.print output
        else if let some e ← Task.writeFile file output false then
          Task.fileFault "uniq" file e
          return 1
      | [] => Task.print output
      return 0

end Count

end LintEngine.Shell
