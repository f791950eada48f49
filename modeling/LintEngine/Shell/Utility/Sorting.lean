import LintEngine.Shell.Numeral
import LintEngine.Shell.Utility.Work

namespace LintEngine.Shell

open Number

namespace Sorting

structure Collation where
  numeric : Bool
  general : Bool
  human : Bool
  month : Bool
  version : Bool
  foldsCase : Bool
  dictionary : Bool
  printable : Bool
  skipsBlanks : Bool
  reverse : Bool
deriving DecidableEq

def Collation.plain : Collation :=
  ⟨false, false, false, false, false, false, false, false, false, false⟩

def Collation.with? (o : Collation) : Char → Option Collation
  | 'n' => some { o with numeric := true }
  | 'g' => some { o with general := true }
  | 'h' => some { o with human := true }
  | 'M' => some { o with month := true }
  | 'V' => some { o with version := true }
  | 'f' => some { o with foldsCase := true }
  | 'd' => some { o with dictionary := true }
  | 'i' => some { o with printable := true }
  | 'b' => some { o with skipsBlanks := true }
  | 'r' => some { o with reverse := true }
  | _ => none

structure KeyPlace where
  field : Nat
  byte : Nat
  skipsBlanks : Bool

structure Key where
  start : KeyPlace
  stop : Option KeyPlace
  collation : Collation

def keyPlace? (isStart : Bool) (text : Bytes) : Option (KeyPlace × Collation × Bytes) :=
  let field := text.takeWhile Char.isDigit
  let rest := text.drop field.length
  let (byte, rest) := match rest with
    | '.' :: more =>
      let digits := more.takeWhile Char.isDigit
      (some digits, more.drop digits.length)
    | rest => (none, rest)
  let letters := rest.takeWhile fun c => c ≠ ','
  if field.isEmpty || ofDigits field = 0 || byte = some [] then none
  else do
    let o ← letters.foldlM Collation.with? Collation.plain
    let n := match byte with
      | some digits => ofDigits digits
      | none => if isStart then 1 else 0
    if isStart && n = 0 then none
    else some (⟨ofDigits field, n, o.skipsBlanks⟩, o, rest.drop letters.length)

def Collation.or (a b : Collation) : Collation :=
  ⟨a.numeric || b.numeric, a.general || b.general, a.human || b.human, a.month || b.month,
    a.version || b.version, a.foldsCase || b.foldsCase, a.dictionary || b.dictionary,
    a.printable || b.printable, a.skipsBlanks || b.skipsBlanks, a.reverse || b.reverse⟩

def key? (text : Bytes) : Option Key := do
  let (start, o, rest) ← keyPlace? true text
  match rest with
  | [] => some ⟨start, none, o⟩
  | _ :: rest =>
    let (stop, o', rest) ← keyPlace? false rest
    if rest.isEmpty then some ⟨start, some stop, o.or o'⟩ else none

/-- The fields of a line with where each starts: a field takes the blanks before it, or stands
between separators. -/
def fieldStarts (separator : Option Char) (line : Bytes) : List (Nat × Nat) :=
  match separator with
  | some c =>
    ((cutAt c line).foldl (fun (out, i) part => ((i, i + part.length) :: out, i + part.length + 1))
      (([], 0) : List (Nat × Nat) × Nat)).1.reverse
  | none => blankFields (line.length + 1) 0 line
where
  blankFields : Nat → Nat → Bytes → List (Nat × Nat)
    | 0, _, _ => []
    | _ + 1, _, [] => []
    | n + 1, i, text =>
      let blanks := text.takeWhile isBlankOrFeed
      let word := (text.drop blanks.length).takeWhile fun c => !isBlankOrFeed c
      let length := blanks.length + word.length
      (i, i + length) :: blankFields n (i + length) (text.drop length)
  isBlankOrFeed (c : Char) : Bool := isBlank c || c = '\n'

def startOffset (fields : List (Nat × Nat)) (line : Bytes) (k : KeyPlace) : Nat :=
  match fields[k.field - 1]? with
  | none => line.length
  | some (first, _) =>
    let first := if k.skipsBlanks then
        first + ((line.drop first).takeWhile isBlank).length
      else first
    min (first + (k.byte - 1)) line.length

def stopOffset (fields : List (Nat × Nat)) (line : Bytes) (k : KeyPlace) : Nat :=
  match fields[k.field - 1]? with
  | none => line.length
  | some (first, last) =>
    if k.byte = 0 then last
    else
      let first := if k.skipsBlanks then
          first + ((line.drop first).takeWhile isBlank).length
        else first
      min (first + k.byte) line.length

def Key.text (separator : Option Char) (k : Key) (line : Bytes) : Bytes :=
  let fields := fieldStarts separator line
  let start := startOffset fields line k.start
  let stop := match k.stop with
    | some stop => stopOffset fields line stop
    | none => line.length
  (line.drop start).take (stop - start)

structure Quantity where
  negative : Bool
  whole : Bytes
  fraction : Bytes
  rest : Bytes

def quantity (text : Bytes) : Quantity :=
  let text := text.dropWhile isBlank
  let (negative, text) := match text with
    | '-' :: rest => (true, rest)
    | text => (false, text)
  let whole := text.takeWhile Char.isDigit
  let rest := text.drop whole.length
  match rest with
  | '.' :: more =>
    let fraction := more.takeWhile Char.isDigit
    ⟨negative, whole.dropWhile (· = '0'), dropEndWhile (· = '0') fraction,
      more.drop fraction.length⟩
  | rest => ⟨negative, whole.dropWhile (· = '0'), [], rest⟩

def Quantity.isZero (q : Quantity) : Bool := q.whole.isEmpty && q.fraction.isEmpty

def compareMagnitudes (a b : Quantity) : Ordering :=
  (compare a.whole.length b.whole.length).then
    ((compareBytes a.whole b.whole).then (compareBytes a.fraction b.fraction))

def compareQuantities (a b : Quantity) : Ordering :=
  let rank (q : Quantity) : Nat := if q.isZero then 1 else if q.negative then 0 else 2
  (compare (rank a) (rank b)).then
    (if a.isZero then .eq
    else if a.negative then compareMagnitudes b a
    else compareMagnitudes a b)

def unitRank (q : Quantity) : Int :=
  let n : Int := match q.rest with
    | c :: _ => (("kKMGTPEZYRQ".toList.zip [1, 1, 2, 3, 4, 5, 6, 7, 8, 9, 10]).lookup c).getD 0
    | [] => 0
  if q.isZero then 0 else if q.negative then -n else n

def monthNumber (text : Bytes) : Nat :=
  let name := ((text.dropWhile isBlank).take 3).map Char.toUpper
  match ["JAN", "FEB", "MAR", "APR", "MAY", "JUN", "JUL", "AUG", "SEP", "OCT", "NOV",
      "DEC"].findIdx? (·.toList = name) with
  | some i => i + 1
  | none => 0

def compareDoubles (a b : Bytes) : Ordering :=
  match takeDouble? a, takeDouble? b with
  | none, none => .eq
  | none, some _ => .lt
  | some _, none => .gt
  | some (x, _), some (y, _) =>
    if x.isNaN then if y.isNaN then .eq else .lt
    else if y.isNaN then .gt
    else if x < y then .lt
    else if y < x then .gt
    else .eq

def versionRank : Option Char → Int
  | none => -1
  | some c =>
    if c.isDigit then 0
    else if c.isAlpha then c.toNat
    else if c = '~' then -2
    else c.toNat + 256

def compareVersionParts : Nat → Bytes → Bytes → Ordering
  | 0, _, _ => .eq
  | n + 1, a, b =>
    if a.isEmpty && b.isEmpty then .eq
    else
      let startsText (t : Bytes) := t.head?.any fun c => !c.isDigit
      if startsText a || startsText b then
        match compare (versionRank a.head?) (versionRank b.head?) with
        | .eq => compareVersionParts n (a.drop 1) (b.drop 1)
        | other => other
      else
        let a := a.dropWhile (· = '0')
        let b := b.dropWhile (· = '0')
        let da := a.takeWhile Char.isDigit
        let db := b.takeWhile Char.isDigit
        match (compare da.length db.length).then (compareBytes da db) with
        | .eq =>
          if da.isEmpty && a.isEmpty && b.isEmpty then .eq
          else compareVersionParts n (a.drop da.length) (b.drop db.length)
        | other => other

def compareVersions (a b : Bytes) : Ordering :=
  let rank (t : Bytes) : Nat :=
    if t.isEmpty then 0 else if t = ['.'] then 1 else if t = ['.', '.'] then 2
    else if t.head? = some '.' then 3 else 4
  (compare (rank a) (rank b)).then (compareVersionParts (a.length + b.length + 1) a b)

def Collation.counted (o : Collation) (text : Bytes) : Bytes :=
  let text := if o.dictionary then text.filter fun c => isBlank c || c.isAlphanum
    else if o.printable then text.filter fun c => ' ' ≤ c && c ≤ '~'
    else text
  if o.foldsCase then text.map Char.toUpper else text

def Collation.compareTexts (o : Collation) (a b : Bytes) : Ordering :=
  if o.numeric then compareQuantities (quantity a) (quantity b)
  else if o.general then compareDoubles a b
  else if o.human then
    (compare (unitRank (quantity a)) (unitRank (quantity b))).then
      (compareQuantities (quantity a) (quantity b))
  else if o.month then compare (monthNumber a) (monthNumber b)
  else if o.version then compareVersions (o.counted a) (o.counted b)
  else compareBytes (o.counted a) (o.counted b)

def Collation.compare (o : Collation) (a b : Bytes) : Ordering :=
  if o.reverse then (o.compareTexts a b).swap else o.compareTexts a b

structure SortOrder where
  separator : Option Char
  keys : List Key
  whole : Collation
  stable : Bool
  unique : Bool

def SortOrder.compareKeys (s : SortOrder) (a b : Bytes) : Ordering :=
  if s.keys.isEmpty then
    let trimmed (line : Bytes) := if s.whole.skipsBlanks then line.dropWhile isBlank else line
    s.whole.compare (trimmed a) (trimmed b)
  else
    s.keys.foldl (fun found k =>
      match found with
      | .eq => k.collation.compare (k.text s.separator a) (k.text s.separator b)
      | found => found) .eq

def SortOrder.compareLines (s : SortOrder) (a b : Bytes) : Ordering :=
  match s.compareKeys a b with
  | .eq =>
    if s.stable || s.unique then .eq
    else if s.whole.reverse then compareBytes b a
    else compareBytes a b
  | found => found

def SortOrder.distinct (s : SortOrder) : List Bytes → List Bytes
  | [] => []
  | line :: rest =>
    line :: (s.distinct rest).dropWhile fun other => s.compareKeys line other = .eq

def SortOrder.sort (s : SortOrder) (lines : List Bytes) : List Bytes :=
  let sorted := lines.mergeSort fun a b => (s.compareLines a b).isLE
  if s.unique then s.distinct sorted else sorted

def SortOrder.disorder? (s : SortOrder) : Nat → List Bytes → Option (Nat × Bytes)
  | n, a :: b :: rest =>
    let bad := match s.compareLines a b with
      | .gt => true
      | .eq => s.unique
      | .lt => false
    if bad then some (n + 1, b) else s.disorder? (n + 1) (b :: rest)
  | _, _ => none

def options : OptionTable where
  letters := OptionTable.flags "bdfgiMhnRrVcCmsuz" ++ OptionTable.valued "koStT"
  names := [("ignore-leading-blanks", 'b'), ("dictionary-order", 'd'), ("ignore-case", 'f'),
    ("general-numeric-sort", 'g'), ("ignore-nonprinting", 'i'), ("month-sort", 'M'),
    ("human-numeric-sort", 'h'), ("numeric-sort", 'n'), ("reverse", 'r'), ("version-sort", 'V'),
    ("check", 'c'), ("key", 'k'), ("merge", 'm'), ("output", 'o'), ("stable", 's'),
    ("field-separator", 't'), ("unique", 'u'), ("zero-terminated", 'z')]

/-- Sorts the lines of files. -/
def sort : Utility := fun arguments =>
  Task.withOptions "sort" 2 options arguments fun p => do
    let whole := p.options.foldl (fun (o : Collation) (c, _) => (o.with? c).getD o)
      Collation.plain
    let separator? : Option (Option Char) := match p.value? 't' with
      | none => some none
      | some ['\\', '0'] => some (some '\x00')
      | some [c] => some (some c)
      | some _ => none
    let keys? := (p.options.filterMap fun (c, value) =>
      if c = 'k' then some (value.getD []) else none).mapM key?
    match separator?, keys? with
    | some separator, some keys =>
      let keys := keys.map fun k =>
        if k.collation = .plain then
          { k with
            collation := whole
            start := { k.start with skipsBlanks := whole.skipsBlanks }
            stop := k.stop.map fun place => { place with skipsBlanks := whole.skipsBlanks } }
        else k
      let s : SortOrder := ⟨separator, keys, whole, p.has 's', p.has 'u'⟩
      let terminator := if p.has 'z' then '\x00' else '\n'
      let mut lines : List Bytes := []
      for file in if p.operands.isEmpty then [['-']] else p.operands do
        match ← Task.readOperand file with
        | .ok text => lines := lines ++ (Lines.ofRecords terminator text).lines
        | .error .isDirectory =>
          Task.fault "sort" ("read failed: ".toList ++ file ++ ": Is a directory".toList)
          return 2
        | .error e =>
          Task.fault "sort" ("cannot read: ".toList ++ file ++ ": ".toList ++
            (FileFault.reason e).toList)
          return 2
      if p.has 'c' || p.has 'C' then
        match s.disorder? 1 lines with
        | none => return 0
        | some (n, line) =>
          if p.has 'c' then
            let file := p.operands.head?.getD ['-']
            Task.fault "sort" (file ++ ':' :: natText n ++ ": disorder: ".toList ++ line)
          return 1
      else
        let output := (s.sort lines).flatMap fun line => line ++ [terminator]
        match p.value? 'o' with
        | some file =>
          if let some e ← Task.writeFile file output false then
            Task.fault "sort" ("open failed: ".toList ++ file ++ ": ".toList ++
              (FileFault.reason e).toList)
            return 2
        | none => Task.print output
        return 0
    | none, _ =>
      Task.fault "sort" ("multi-character tab ".toList ++ Task.inQuotes ((p.value? 't').getD []))
      return 2
    | _, none =>
      Task.fault "sort" "invalid number at field start".toList
      return 2

end Sorting

end LintEngine.Shell
