import LintEngine.Shell.Arithmetic
import LintEngine.Shell.Utility.Work

namespace LintEngine.Shell

open Number

namespace Concatenate

structure Showing where
  numbersAll : Bool
  numbersFilled : Bool
  squeezes : Bool
  marksEnds : Bool
  showsTabs : Bool
  showsControls : Bool

def visible (showsTabs : Bool) (c : Char) : Bytes :=
  let plain (n : Nat) : Bytes :=
    if n < 32 then ['^', byteChar (n + 64)] else if n = 127 then ['^', '?'] else [byteChar n]
  if c = '\t' && !showsTabs then ['\t']
  else if c.toNat < 128 then plain c.toNat
  else 'M' :: '-' :: plain (c.toNat - 128)

def showLine (s : Showing) (line : Bytes) : Bytes :=
  line.flatMap fun c =>
    if c = '\t' then if s.showsTabs then ['^', 'I'] else ['\t']
    else if s.showsControls then visible true c
    else [c]

def showReturn (s : Showing) (ended : Bool) (line : Bytes) : Bytes :=
  if s.marksEnds && ended && !s.showsControls && line.getLast? = some '\r' then
    showLine s line.dropLast ++ ['^', 'M']
  else showLine s line

def showLines (s : Showing) (ended : Bool) : (number blanks : Nat) → List Bytes → Bytes
  | _, _, [] => []
  | number, blanks, line :: rest =>
    if s.squeezes && line.isEmpty && 1 ≤ blanks then showLines s ended number blanks rest
    else
      let numbered := if s.numbersFilled then !line.isEmpty else s.numbersAll
      let isEnded := ended || !rest.isEmpty
      (if numbered then rightAligned 6 (natText number) ++ ['\t'] else []) ++
        showReturn s isEnded line ++
        (if isEnded then if s.marksEnds then ['$', '\n'] else ['\n'] else []) ++
        showLines s ended (if numbered then number + 1 else number)
          (if line.isEmpty then blanks + 1 else 0) rest

def options : OptionTable where
  letters := OptionTable.flags "AbeEnstTuv"
  names := [("show-all", 'A'), ("number-nonblank", 'b'), ("show-ends", 'E'), ("number", 'n'),
    ("squeeze-blank", 's'), ("show-tabs", 'T'), ("show-nonprinting", 'v')]

def cat : Utility := fun arguments =>
  Task.withOptions "cat" 1 options arguments fun p => do
    let has := fun cs : String => p.options.any fun o => cs.contains o.1
    let s : Showing := ⟨has "n", has "b", has "s", has "AeE", has "AtT", has "Aetv"⟩
    if has "AbeEnstTv" then
      let (text, good) ← Task.readAll "cat" p.operands
      let l := Lines.ofBytes text
      Task.print (showLines s l.ended 1 0 l.lines)
      return Task.status good
    else
      let mut good := true
      for file in if p.operands.isEmpty then [['-']] else p.operands do
        match ← Task.readOperand file with
        | .ok text => Task.print text
        | .error e =>
          Task.fileFault "cat" file e
          good := false
      return Task.status good

/-- The records of a text with their ends, each of which is a given text. The number bounds the
characters. -/
def records (separator : Bytes) : Nat → Bytes → Bytes → List Bytes
  | 0, current, _ => if current.isEmpty then [] else [current.reverse]
  | _ + 1, current, [] => if current.isEmpty then [] else [current.reverse]
  | n + 1, current, c :: rest =>
    match stripLead? separator (c :: rest) with
    | some after =>
      if separator.isEmpty then records separator n (c :: current) rest
      else (current.reverse ++ separator) :: records separator n [] after
    | none => records separator n (c :: current) rest

def tac : Utility := fun arguments =>
  Task.withOptions "tac" 1 ⟨OptionTable.flags "br" ++ OptionTable.valued "s",
      [("separator", 's'), ("before", 'b')]⟩ arguments fun p => do
    let separator := (p.value? 's').getD ['\n']
    let (texts, good) ← Task.readOperands "tac"
      (if p.operands.isEmpty then [['-']] else p.operands)
    for (_, text) in texts do
      Task.print (records separator (text.length + 1) [] text).reverse.flatten
    return Task.status good

def rev : Utility := fun arguments => do
  let (text, good) ← Task.readAll "rev" arguments
  let l := Lines.ofBytes text
  Task.print (Lines.toBytes { l with lines := l.lines.map List.reverse })
  return Task.status good

def tee : Utility := fun arguments =>
  Task.withOptions "tee" 1 ⟨OptionTable.flags "aip", [("append", 'a')]⟩ arguments fun p => do
    let text ← Task.takeInput
    let mut good := true
    for file in p.operands do
      if let some e ← Task.writeFile file text (p.has 'a') then
        Task.fileFault "tee" file e
        good := false
    Task.print text
    return Task.status good

def count? (text : Bytes) : Option Nat :=
  let digits := text.takeWhile Char.isDigit
  let unit := String.ofList (text.drop digits.length)
  if digits.isEmpty then none
  else
    let scale? := [("", 1), ("b", 512), ("K", 1024), ("k", 1024), ("kB", 1000), ("KB", 1000),
      ("KiB", 1024), ("M", 1048576), ("MB", 1000000), ("MiB", 1048576),
      ("G", 1073741824), ("GB", 1000000000), ("GiB", 1073741824)].lookup unit
    scale?.map fun scale => ofDigits digits * scale

def takeLines (separator : Char) : Nat → Bytes → Bytes × Bytes
  | _, [] => ([], [])
  | 0, text => ([], text)
  | n + 1, c :: rest =>
    let (taken, left) := takeLines separator (if c = separator then n else n + 1) rest
    (c :: taken, left)

def lineCount (separator : Char) (text : Bytes) : Nat :=
  text.count separator + (if text.getLast?.all (· = separator) then 0 else 1)

inductive Extent where
  | count (n : Nat)
  | allBut (n : Nat)
  | startAt (n : Nat)

def expandCount (arguments : List Bytes) : List Bytes :=
  match arguments with
  | ('-' :: c :: rest) :: more =>
    if c.isDigit then
      let digits := (c :: rest).takeWhile Char.isDigit
      let letters := (c :: rest).drop digits.length
      let unit := letters.filter fun x => "bkm".contains x
      let isBytes := letters.contains 'c' || !unit.isEmpty
      let others := letters.filter fun x => "qvzf".contains x
      ['-', if isBytes then 'c' else 'n'] :: (digits ++ unit) ::
        (if others.isEmpty then more else ('-' :: others) :: more)
    else arguments
  | _ => arguments

def header (first : Bool) (name : Bytes) : Bytes :=
  let name := if name = ['-'] then "standard input".toList else name
  (if first then [] else ['\n']) ++ "==> ".toList ++ name ++ " <==\n".toList

def forFiles (utility : String) (p : Parsed) (part : Bytes → Task Unit) : Task Nat := do
  let files := if p.operands.isEmpty then [['-']] else p.operands
  let named := match p.last? "qv" with
    | some 'v' => true
    | some _ => false
    | none => 1 < files.length
  let mut good := true
  let mut first := true
  for file in files do
    match ← Task.readOperand file with
    | .ok text =>
      if named then Task.print (header first file)
      first := false
      part text
    | .error .isDirectory =>
      if named then Task.print (header first file)
      first := false
      Task.fault utility ("error reading ".toList ++ Task.inQuotes file ++
        ": Is a directory".toList)
      good := false
    | .error e =>
      Task.fault utility ("cannot open ".toList ++ Task.inQuotes file ++
        " for reading: ".toList ++ (FileFault.reason e).toList)
      good := false
  return Task.status good

def headOptions : OptionTable where
  letters := OptionTable.flags "qvz" ++ OptionTable.valued "cn"
  names := [("bytes", 'c'), ("lines", 'n'), ("quiet", 'q'), ("silent", 'q'), ("verbose", 'v'),
    ("zero-terminated", 'z')]

def firstPart (isBytes : Bool) (separator : Char) (extent : Extent) (text : Bytes) :
    Bytes × Bytes :=
  let size := if isBytes then text.length else lineCount separator text
  let n := match extent with
    | .count n => n
    | .allBut n => size - n
    | .startAt n => n
  if isBytes then (text.take n, text.drop n) else takeLines separator n text

def firstExtent? (text : Bytes) : Option Extent :=
  match text with
  | '-' :: digits => (count? digits).map .allBut
  | '+' :: digits => (count? digits).map .count
  | digits => (count? digits).map .count

def head : Utility := fun arguments =>
  Task.withOptions "head" 1 headOptions (expandCount arguments) fun p => do
    let isBytes := p.last? "cn" = some 'c'
    let text := ((p.options.reverse.find? fun o => o.1 = 'c' || o.1 = 'n').bind (·.2)).getD
      ['1', '0']
    match firstExtent? text with
    | none =>
      Task.fault "head" ((if isBytes then "invalid number of bytes: "
        else "invalid number of lines: ").toList ++ Task.inQuotes text)
      return 1
    | some extent =>
      let separator := if p.has 'z' then '\x00' else '\n'
      forFiles "head" p fun text => do
        let (part, rest) := firstPart isBytes separator extent text
        Task.print part
        if p.operands.isEmpty || p.operands.contains ['-'] then
          Task.leaveInput rest
          if isBytes then
            if let .count _ := extent then modify fun w => { w with exact := true }

def tailOptions : OptionTable where
  letters := OptionTable.flags "fFqvz" ++ OptionTable.valued "cns" ++ [('p', .required)]
  names := [("bytes", 'c'), ("lines", 'n'), ("quiet", 'q'), ("silent", 'q'), ("verbose", 'v'),
    ("zero-terminated", 'z'), ("follow", 'f'), ("pid", 'p')]

def lastPart (isBytes : Bool) (separator : Char) (extent : Extent) (text : Bytes) : Bytes :=
  let size := if isBytes then text.length else lineCount separator text
  let skipped := match extent with
    | .count n => size - n
    | .allBut n => n
    | .startAt n => n - 1
  if isBytes then text.drop skipped else (takeLines separator skipped text).2

def lastExtent? (text : Bytes) : Option Extent :=
  match text with
  | '+' :: digits => (count? digits).map .startAt
  | '-' :: digits => (count? digits).map .count
  | digits => (count? digits).map .count

def expandStart (arguments : List Bytes) : List Bytes :=
  match arguments with
  | ('+' :: c :: rest) :: more =>
    if c.isDigit then
      let digits := (c :: rest).takeWhile Char.isDigit
      let letters := (c :: rest).drop digits.length
      ['-', if letters.contains 'c' then 'c' else 'n'] :: ('+' :: digits) :: more
    else arguments
  | _ => expandCount arguments

def tail : Utility := fun arguments =>
  Task.withOptions "tail" 1 tailOptions (expandStart arguments) fun p => do
    let isBytes := p.last? "cn" = some 'c'
    let text := ((p.options.reverse.find? fun o => o.1 = 'c' || o.1 = 'n').bind (·.2)).getD
      ['1', '0']
    match lastExtent? text with
    | none =>
      Task.fault "tail" ((if isBytes then "invalid number of bytes: "
        else "invalid number of lines: ").toList ++ Task.inQuotes text)
      return 1
    | some extent =>
      let separator := if p.has 'z' then '\x00' else '\n'
      forFiles "tail" p fun text => Task.print (lastPart isBytes separator extent text)

end Concatenate

end LintEngine.Shell
