import LintEngine.Shell.Utility.Concatenate

namespace LintEngine.Shell

open Number

namespace Columns

structure Positions where
  first : Nat
  last : Option Nat

def positions? (text : Bytes) : Option Positions :=
  let low := text.takeWhile Char.isDigit
  let rest := text.drop low.length
  match rest with
  | [] => if low.isEmpty || ofDigits low = 0 then none else some ⟨ofDigits low, some (ofDigits low)⟩
  | '-' :: high =>
    if !high.all Char.isDigit || (low.isEmpty && high.isEmpty) then none
    else
      let first := if low.isEmpty then 1 else ofDigits low
      if first = 0 then none
      else if high.isEmpty then some ⟨first, none⟩
      else if ofDigits high < first then none
      else some ⟨first, some (ofDigits high)⟩
  | _ => none

def positionList? (text : Bytes) : Option (List Positions) :=
  (splitWords (fun c => c = ',' || isBlank c) text).mapM positions?

def holds (complement : Bool) (list : List Positions) (n : Nat) : Bool :=
  (list.any fun p => p.first ≤ n && p.last.all (n ≤ ·)) != complement

def choose {α : Type} (chosen : Nat → Bool) (items : List α) : List α :=
  (items.zipIdx 1).filterMap fun (item, n) => if chosen n then some item else none

/-- The chosen bytes of a line; with a text to set between stretches, one is set where bytes are
left out. -/
def chooseBytes (chosen : Nat → Bool) (starts : Nat → Bool) (between : Option Bytes)
    (line : Bytes) : Bytes :=
  match between with
  | none => choose chosen line
  | some text =>
    (((line.zipIdx 1).filter fun x => chosen x.2).foldl (fun (out, last) (c, n) =>
      ((if (last + 1 < n || starts n) && 0 < last then out ++ text else out) ++ [c], n))
      (([], 0) : Bytes × Nat)).1

def cutOptions : OptionTable where
  letters := OptionTable.flags "snzC" ++ OptionTable.valued "bcdfO"
  names := [("bytes", 'b'), ("characters", 'c'), ("fields", 'f'), ("delimiter", 'd'),
    ("only-delimited", 's'), ("complement", 'C'), ("output-delimiter", 'O'),
    ("zero-terminated", 'z')]

/-- Writes chosen parts of lines. -/
def cut : Utility := fun arguments =>
  Task.withOptions "cut" 1 cutOptions arguments fun p => do
    let wrong (message : String) : Task Nat := do
      Task.fault "cut" message.toList
      Task.hint "cut"
      return 1
    match p.options.filter fun o => "bcf".contains o.1 with
    | [] => wrong "you must specify a list of bytes, characters, or fields"
    | (kind, list) :: more =>
      if !more.isEmpty then wrong "only one list may be specified"
      else if kind ≠ 'f' && p.has 'd' then
        wrong "an input delimiter may be specified only when operating on fields"
      else if kind ≠ 'f' && p.has 's' then
        wrong "suppressing non-delimited lines makes sense\n\tonly when operating on fields"
      else if ((p.value? 'd').any fun d => 1 < d.length) then
        wrong "the delimiter must be a single character"
      else
        match positionList? (list.getD []) with
        | none | some [] => wrong "invalid field value"
        | some positions =>
          let chosen := holds (p.has 'C') positions
          let terminator := if p.has 'z' then '\x00' else '\n'
          let delimiter := match p.value? 'd' with
            | some (c :: _) => c
            | some [] => '\x00'
            | none => '\t'
          let between := p.value? 'O'
          let starts := fun n => positions.any (·.first = n)
          let part (line : Bytes) : Option Bytes :=
            if kind = 'f' then
              if line.contains delimiter then
                some ((between.getD [delimiter]).intercalate (choose chosen (cutAt delimiter line)))
              else if p.has 's' then none
              else some line
            else some (chooseBytes chosen starts between line)
          let (text, good) ← Task.readAll "cut" p.operands
          let lines := (Lines.ofRecords terminator text).lines
          Task.print ((lines.filterMap part).flatMap fun line => line ++ [terminator])
          return Task.status good

def delimiters : Nat → Bytes → List Bytes
  | 0, _ => []
  | _ + 1, [] => []
  | n + 1, '\\' :: c :: rest =>
    (if c = '0' then [] else [(controlChar? c).getD c]) :: delimiters n rest
  | n + 1, c :: rest => [c] :: delimiters n rest

def joinTurns (ds : List Bytes) (parts : List Bytes) : Bytes :=
  match parts with
  | [] => []
  | first :: rest =>
    first ++ (rest.zipIdx).flatMap fun (part, i) => ((ds[i % ds.length]?).getD []) ++ part

def sideBySide (ds : List Bytes) : Nat → List (List Bytes) → List Bytes
  | 0, _ => []
  | n + 1, texts =>
    if texts.all List.isEmpty then []
    else
      joinTurns ds (texts.map fun t => t.head?.getD []) ::
        sideBySide ds n (texts.map fun t => t.drop 1)

def dealLines (lines : List Bytes) (operands : Nat) (turn : Nat) : List Bytes :=
  (lines.zipIdx).filterMap fun (line, i) => if i % operands = turn then some line else none

/-- Sets the lines of files beside each other, or those of one file in one line. -/
def paste : Utility := fun arguments =>
  Task.withOptions "paste" 1 ⟨OptionTable.flags "sz" ++ OptionTable.valued "d",
      [("delimiters", 'd'), ("serial", 's'), ("zero-terminated", 'z')]⟩ arguments fun p => do
    let list := (p.value? 'd').getD ['\t']
    let ds := if list.isEmpty then [[]] else delimiters (list.length + 1) list
    let terminator := if p.has 'z' then '\x00' else '\n'
    let files := if p.operands.isEmpty then [['-']] else p.operands
    let dashes := files.count ['-']
    let linesOf (text : Bytes) := (Lines.ofRecords terminator text).lines
    let write (lines : List Bytes) := Task.print (lines.flatMap fun line => line ++ [terminator])
    if p.has 's' then
      let (texts, good) ← Task.readOperands "paste" files
      write (texts.map fun (_, text) => joinTurns ds (linesOf text))
      return Task.status good
    else
      let input ← if 0 < dashes then Task.takeInput else pure []
      let mut texts : List (List Bytes) := []
      let mut turn := 0
      for file in files do
        if file = ['-'] then
          texts := texts ++ [dealLines (linesOf input) dashes turn]
          turn := turn + 1
        else
          match ← Task.readNamed file with
          | .ok text => texts := texts ++ [linesOf text]
          | .error e =>
            Task.fileFault "paste" file e
            return 1
      let longest := texts.foldl (fun n t => max n t.length) 0
      write (sideBySide ds (longest + 1) texts)
      return 0

def columnAfter (counts : Bool) (column : Nat) (c : Char) : Nat :=
  if counts then column + 1
  else if c = '\x08' then column - 1
  else if c = '\r' then 0
  else if c = '\t' then column + (8 - column % 8)
  else column + 1

def widthOf (counts : Bool) (text : Bytes) : Nat :=
  text.foldl (columnAfter counts) 0

def wrap (width : Nat) (atBlanks counts : Bool) : Nat → Bytes → Nat → Bytes → List Bytes
  | 0, current, _, rest => [current.reverse ++ rest]
  | _ + 1, current, _, [] => [current.reverse]
  | n + 1, current, column, c :: rest =>
    let next := columnAfter counts column c
    if next ≤ width then wrap width atBlanks counts n (c :: current) next rest
    else
      let tailPart := current.takeWhile fun x => !isBlank x
      if atBlanks && tailPart.length < current.length then
        let kept := current.drop tailPart.length
        kept.reverse ::
          wrap width atBlanks counts n tailPart (widthOf counts tailPart.reverse) (c :: rest)
      else if current.isEmpty then wrap width atBlanks counts n [c] next rest
      else current.reverse :: wrap width atBlanks counts n [] 0 (c :: rest)

def fold : Utility := fun arguments =>
  let arguments := match arguments with
    | ('-' :: c :: digits) :: rest =>
      if c.isDigit then ['-', 'w'] :: (c :: digits) :: rest else arguments
    | _ => arguments
  Task.withOptions "fold" 1 ⟨OptionTable.flags "bs" ++ OptionTable.valued "w",
      [("bytes", 'b'), ("spaces", 's'), ("width", 'w')]⟩ arguments fun p => do
    let width := (p.value? 'w').getD ['8', '0']
    if width.isEmpty || !width.all Char.isDigit || ofDigits width = 0 then
      Task.fault "fold" ("invalid number of columns: ".toList ++ Task.inQuotes width)
      return 1
    else
      let (text, good) ← Task.readAll "fold" p.operands
      let l := Lines.ofBytes text
      let lines := l.lines.flatMap fun line =>
        wrap (ofDigits width) (p.has 's') (p.has 'b') (4 * line.length + 4) [] 0 line
      Task.print (Lines.toBytes { l with lines := lines })
      return Task.status good

inductive TabStops where
  | every (n : Nat)
  | at (stops : List Nat)
  | thenEvery (stops : List Nat) (n : Nat)

def TabStops.next : TabStops → Nat → Option Nat
  | every n, column => some (column + (n - column % n))
  | «at» stops, column => stops.find? (column < ·)
  | thenEvery stops n, column =>
    match stops.find? (column < ·) with
    | some stop => some stop
    | none => some (column + (n - column % n))

def tabStops? (text : Bytes) : Option TabStops :=
  let words := splitWords (fun c => c = ',' || isBlank c) text
  let isNumber := fun w : Bytes => !w.isEmpty && w.all Char.isDigit && ofDigits w ≠ 0
  match words.getLast? with
  | some ('/' :: last) =>
    if isNumber last && words.dropLast.all isNumber then
      some (.thenEvery (words.dropLast.map ofDigits) (ofDigits last))
    else none
  | _ =>
    if words.isEmpty || !words.all isNumber then none
    else
      match words with
      | [w] => some (.every (ofDigits w))
      | words => some (.at (words.map ofDigits))

def expandLine (stops : TabStops) (leading : Bool) : Nat → Bool → Bytes → Bytes
  | _, _, [] => []
  | column, atStart, c :: rest =>
    if c = '\t' && (atStart || !leading) then
      let next := (stops.next column).getD (column + 1)
      List.replicate (next - column) ' ' ++ expandLine stops leading next atStart rest
    else
      let next := if c = '\x08' then column - 1
        else if c = '\t' then (stops.next column).getD (column + 1)
        else column + 1
      c :: expandLine stops leading next (atStart && isBlank c) rest

def expandStops (arguments : List Bytes) : List Bytes :=
  arguments.map fun a =>
    match a with
    | '-' :: c :: rest => if c.isDigit then "-t".toList ++ c :: rest else a
    | a => a

def expand : Utility := fun arguments =>
  Task.withOptions "expand" 1 ⟨OptionTable.flags "i" ++ OptionTable.valued "t",
      [("initial", 'i'), ("tabs", 't')]⟩ (expandStops arguments) fun p => do
    match tabStops? ((p.value? 't').getD ['8']) with
    | none =>
      Task.fault "expand" "tab size contains invalid character(s)".toList
      return 1
    | some stops =>
      let (text, good) ← Task.readAll "expand" p.operands
      let l := Lines.ofBytes text
      let expanded := l.lines.map (expandLine stops (p.has 'i') 0 true)
      Task.print (Lines.toBytes { l with lines := expanded })
      return Task.status good

/-- Writes tabs for blanks that reach a stop. `pending` are the blanks since the last stop or text,
backwards. -/
def unexpandLine (stops : TabStops) (everywhere : Bool) :
    (column : Nat) → (pending : Bytes) → (converting : Bool) → Bytes → Bytes
  | _, pending, _, [] => pending.reverse
  | column, pending, converting, c :: rest =>
    if converting && isBlank c then
      match stops.next column with
      | none => pending.reverse ++ c :: unexpandLine stops everywhere (column + 1) [] false rest
      | some stop =>
        if c = '\t' then
          '\t' :: unexpandLine stops everywhere stop [] converting rest
        else if column + 1 = stop then
          if pending.isEmpty && rest.head?.all (fun d => !isBlank d) then
            ' ' :: unexpandLine stops everywhere (column + 1) [] converting rest
          else '\t' :: unexpandLine stops everywhere stop [] converting rest
        else unexpandLine stops everywhere (column + 1) (c :: pending) converting rest
    else
      let column := if c = '\x08' then column - 1 else column + 1
      pending.reverse ++
        c :: unexpandLine stops everywhere column [] (converting && everywhere) rest

def unexpand : Utility := fun arguments =>
  Task.withOptions "unexpand" 1 ⟨OptionTable.flags "aF" ++ OptionTable.valued "t",
      [("all", 'a'), ("first-only", 'F'), ("tabs", 't')]⟩ (expandStops arguments) fun p => do
    match tabStops? ((p.value? 't').getD ['8']) with
    | none =>
      Task.fault "unexpand" "tab size contains invalid character(s)".toList
      return 1
    | some stops =>
      let everywhere := (p.has 'a' || p.has 't') && !p.has 'F'
      let (text, good) ← Task.readAll "unexpand" p.operands
      let l := Lines.ofBytes text
      Task.print
        (Lines.toBytes { l with lines := l.lines.map (unexpandLine stops everywhere 0 [] true) })
      return Task.status good

def compareLists : Nat → List Bytes → List Bytes → List (Nat × Bytes)
  | 0, _, _ => []
  | _ + 1, as, [] => as.map fun a => (1, a)
  | _ + 1, [], bs => bs.map fun b => (2, b)
  | n + 1, a :: as, b :: bs =>
    match compareBytes a b with
    | .lt => (1, a) :: compareLists n as (b :: bs)
    | .gt => (2, b) :: compareLists n (a :: as) bs
    | .eq => (3, a) :: compareLists n as bs

/-- Whether a list turns out not to be sorted, as far as that is looked at: a line of it comes
before one that was read after the first line without a partner. Of both lists, the line before is given
with whether it is looked at. -/
def isDisordered : Bool → Option (Bytes × Bool) → Option (Bytes × Bool) → List (Nat × Bytes) → Bool
  | _, _, _, [] => false
  | seen, first, second, (column, line) :: rest =>
    let seen := seen || column ≠ 3
    let isAfter (before : Option (Bytes × Bool)) : Bool :=
      before.any fun (text, looked) => looked && compareBytes text line = .gt
    let inFirst := column ≠ 2
    let inSecond := column ≠ 1
    (inFirst && isAfter first) || (inSecond && isAfter second) ||
      isDisordered seen (if inFirst then some (line, seen) else first)
        (if inSecond then some (line, seen) else second) rest

/-- Compares two sorted files. -/
def comm : Utility := fun arguments =>
  Task.withOptions "comm" 1 ⟨OptionTable.flags "123zNC" ++ OptionTable.valued "O",
      [("output-delimiter", 'O'), ("nocheck-order", 'N'), ("check-order", 'C')]⟩ arguments
    fun p => do
    match p.operands with
    | [first, second] =>
      match ← Task.readOperand first, ← Task.readOperand second with
      | .error e, _ =>
        Task.fileFault "comm" first e
        return 1
      | _, .error e =>
        Task.fileFault "comm" second e
        return 1
      | .ok a, .ok b =>
        let as := (Lines.ofBytes a).lines
        let bs := (Lines.ofBytes b).lines
        let between := (p.value? 'O').getD ['\t']
        let shown (column : Nat) := !p.has (byteChar (48 + column))
        let compared := compareLists (as.length + bs.length + 1) as bs
        Task.print (compared.flatMap fun (column, line) =>
          if shown column then
            (List.replicate (((List.range (column - 1)).filter fun i => shown (i + 1)).length)
              between).flatten ++ line ++ ['\n']
          else [])
        if !p.has 'N' && isDisordered (p.has 'C') none none compared then
          Task.fault "comm" "input is not in sorted order".toList
          return 1
        else return 0
    | _ =>
      Task.fault "comm" "missing operand".toList
      Task.hint "comm"
      return 1

structure Joining where
  separator : Option Char
  key1 : Nat
  key2 : Nat
  layout : Option (List (Nat × Nat))
  filler : Bytes
  ignoreCase : Bool

def fieldsOf (o : Joining) (line : Bytes) : List Bytes :=
  match o.separator with
  | some c => cutAt c line
  | none => splitWords isBlank line

def keyOf (o : Joining) (key : Nat) (fields : List Bytes) : Bytes :=
  let text := (fields[key - 1]?).getD []
  if o.ignoreCase then text.map Char.toUpper else text

def joinedLine (o : Joining) (a b : Option (List Bytes)) : Bytes :=
  let separator := [o.separator.getD ' ']
  let field (file n : Nat) : Bytes :=
    let fields := if file = 1 then a else b
    let text := (fields.bind fun fs => fs[n - 1]?).getD []
    if text.isEmpty then o.filler else text
  let key := match a, b with
    | some fs, _ => (fs[o.key1 - 1]?).getD []
    | none, some fs => (fs[o.key2 - 1]?).getD []
    | none, none => []
  let others (key : Nat) (fields : Option (List Bytes)) : List Bytes :=
    (fields.getD []).eraseIdx (key - 1)
  let parts := match o.layout with
    | some layout => layout.map fun (file, n) => if file = 0 then key else field file n
    | none => key :: others o.key1 a ++ others o.key2 b
  separator.intercalate parts ++ ['\n']

/-- Joins lines in the order of their keys. The numbers of files whose lines without partner are
written are given, and whether pairs are. -/
def joinLists (o : Joining) (alone : List Nat) (pairs : Bool) :
    Nat → List (List Bytes) → List (List Bytes) → Bytes
  | 0, _, _ => []
  | n + 1, as, bs =>
    let only (file : Nat) (a b : Option (List Bytes)) :=
      if alone.contains file then joinedLine o a b else []
    match as, bs with
    | [], [] => []
    | a :: as, [] => only 1 (some a) none ++ joinLists o alone pairs n as []
    | [], b :: bs => only 2 none (some b) ++ joinLists o alone pairs n [] bs
    | a :: as', b :: bs' =>
      match compareBytes (keyOf o o.key1 a) (keyOf o o.key2 b) with
      | .lt => only 1 (some a) none ++ joinLists o alone pairs n as' (b :: bs')
      | .gt => only 2 none (some b) ++ joinLists o alone pairs n (a :: as') bs'
      | .eq =>
        let sameA := as.takeWhile fun x => keyOf o o.key1 x = keyOf o o.key1 a
        let sameB := bs.takeWhile fun x => keyOf o o.key2 x = keyOf o o.key2 b
        (if pairs then
          sameA.flatMap fun x => sameB.flatMap fun y => joinedLine o (some x) (some y)
        else []) ++
          joinLists o alone pairs n (as.drop sameA.length) (bs.drop sameB.length)

def layout? (text : Bytes) : Option (List (Nat × Nat)) :=
  (splitWords (fun c => c = ',' || isBlank c) text).mapM fun word =>
    match word with
    | ['0'] => some (0, 0)
    | file :: '.' :: digits =>
      if (file = '1' || file = '2') && !digits.isEmpty && digits.all Char.isDigit then
        some (file.toNat - 48, ofDigits digits)
      else none
    | _ => none

/-- Joins the lines of two files that have the same key. -/
def join : Utility := fun arguments =>
  Task.withOptions "join" 1 ⟨OptionTable.flags "iz" ++ OptionTable.valued "12aejotv",
      [("ignore-case", 'i')]⟩ arguments fun p => do
    let o : Joining :=
      { separator := (p.value? 't').bind List.head?
        key1 := ((p.value? '1').orElse fun _ => p.value? 'j').elim 1 ofDigits
        key2 := ((p.value? '2').orElse fun _ => p.value? 'j').elim 1 ofDigits
        layout := (p.value? 'o').bind layout?
        filler := (p.value? 'e').getD []
        ignoreCase := p.has 'i' }
    let numbers (c : Char) := p.options.filterMap fun (x, value) =>
      if x = c then value.map ofDigits else none
    match p.operands with
    | [first, second] =>
      match ← Task.readOperand first, ← Task.readOperand second with
      | .error e, _ =>
        Task.fileFault "join" first e
        return 1
      | _, .error e =>
        Task.fileFault "join" second e
        return 1
      | .ok a, .ok b =>
        let as := (Lines.ofBytes a).lines.map (fieldsOf o)
        let bs := (Lines.ofBytes b).lines.map (fieldsOf o)
        Task.print (joinLists o (numbers 'a' ++ numbers 'v') (numbers 'v').isEmpty
          (as.length + bs.length + 1) as bs)
        return 0
    | _ =>
      Task.fault "join" "missing operand".toList
      Task.hint "join"
      return 1

end Columns

end LintEngine.Shell
