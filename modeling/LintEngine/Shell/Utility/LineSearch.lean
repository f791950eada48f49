import LintEngine.Shell.Regex
import LintEngine.Shell.Utility.Concatenate

namespace LintEngine.Shell

open Number

namespace LineSearch

structure Query where
  expressions : List Regex
  mode : Regex.Mode
  inverted : Bool
  wholeLine : Bool
  wholeWord : Bool
  counts : Bool
  quiet : Bool
  onlyMatching : Bool
  filesWith : Bool
  filesWithout : Bool
  lineNumbers : Bool
  byteOffsets : Bool
  withNames : Bool
  endsNames : Bool
  limit : Option Nat
  before : Nat
  after : Nat
  separator : Option Bytes

def isWord (passed rest : Bytes) : Bool :=
  !passed.head?.any Regex.isWord && !rest.head?.any Regex.isWord

def wordHere (mode : Regex.Mode) (r : Regex) (passed rest : Bytes) : Option Regex.Progress :=
  ((r.ends mode r.refersBack ⟨passed, rest, []⟩).filter fun p =>
      isWord passed [] && isWord [] p.rest).foldl (fun best p =>
    match best with
    | none => some p
    | some q => if p.rest.length < q.rest.length then some p else best) none

/-- The longest of the matches of several expressions at a point, given backwards what stands
before it. -/
def matchHere (q : Query) (passed rest : Bytes) : Option Regex.Progress :=
  let found := q.expressions.filterMap fun r =>
    if q.wholeLine then
      if passed.isEmpty then
        (r.ends q.mode r.refersBack ⟨passed, rest, []⟩).find? (·.rest.isEmpty)
      else none
    else if q.wholeWord then wordHere q.mode r passed rest
    else r.matchHere q.mode passed rest
  Regex.longest found

def matchesFrom (q : Query) : Nat → Bytes → Bytes → List (Nat × Bytes)
  | 0, _, _ => []
  | n + 1, passed, rest =>
    match matchHere q passed rest with
    | some p =>
      let length := p.passed.length - passed.length
      if length = 0 then
        match rest with
        | [] => []
        | c :: rest => matchesFrom q n (c :: passed) rest
      else (passed.length, (p.passed.take length).reverse) :: matchesFrom q n p.passed p.rest
    | none =>
      match rest with
      | [] => []
      | c :: rest => matchesFrom q n (c :: passed) rest

def occurs (q : Query) : Bytes → Bytes → Bool
  | passed, [] => (matchHere q passed []).isSome
  | passed, c :: rest =>
    (matchHere q passed (c :: rest)).isSome || occurs q (c :: passed) rest

def selects (q : Query) (line : Bytes) : Bool :=
  occurs q [] line != q.inverted

structure Row where
  number : Nat
  offset : Nat
  text : Bytes
  selected : Bool

def rows (q : Query) : Nat → Nat → Nat → List Bytes → List Row
  | _, _, _, [] => []
  | number, offset, found, line :: rest =>
    let wanted := q.limit.all (found < ·)
    let selected := wanted && selects q line
    ⟨number, offset, line, selected⟩ ::
      rows q (number + 1) (offset + line.length + 1) (if selected then found + 1 else found) rest

def lead (q : Query) (name : Bytes) (mark : Char) (r : Row) (offset : Nat) : Bytes :=
  (if q.withNames then name ++ [if q.endsNames then '\x00' else mark] else []) ++
    (if q.lineNumbers then natText r.number ++ [mark] else []) ++
    (if q.byteOffsets then natText offset ++ [mark] else [])

def written (q : Query) (name : Bytes) (isContext : Bool) (r : Row) : Bytes :=
  let mark := if isContext then '-' else ':'
  if q.onlyMatching then
    if isContext || q.inverted then []
    else
      (matchesFrom q (r.text.length + 2) [] r.text).flatMap fun (offset, text) =>
        lead q name mark r (r.offset + offset) ++ text ++ ['\n']
  else lead q name mark r r.offset ++ r.text ++ ['\n']

def near (q : Query) (chosen : List Nat) (number : Nat) : Bool :=
  chosen.any fun n => (n ≤ number && number ≤ n + q.after) || (number ≤ n && n ≤ number + q.before)

/-- Writes rows with their contexts, and a separator where rows are left out. `shown` tells whether
something was written before. -/
def withContext (q : Query) (name : Bytes) (chosen : List Nat) :
    Option Nat → Bool → List Row → Bytes
  | _, _, [] => []
  | last, shown, r :: rest =>
    if near q chosen r.number then
      let gap := match last with
        | some n => n + 1 < r.number
        | none => shown
      (if gap && (0 < q.before || 0 < q.after) then
        match q.separator with
        | some text => text ++ ['\n']
        | none => []
      else []) ++ written q name (!r.selected) r ++
        withContext q name chosen (some r.number) true rest
    else withContext q name chosen last shown rest

structure Found where
  output : Bytes
  count : Nat
  binary : Bool
  rest : Bytes

def isBinary (text : Bytes) : Bool :=
  text.contains '\x00'

def searchText (q : Query) (asText : Bool) (shown : Bool) (name text : Bytes) : Found :=
  let l := Lines.ofBytes text
  let all := rows q 1 0 0 l.lines
  let chosen := (all.filter (·.selected)).map (·.number)
  let count := chosen.length
  let stop := match q.limit, chosen.getLast? with
    | some limit, some last => if limit ≤ count then some (last + q.after) else none
    | some 0, none => some 0
    | _, _ => none
  let rest := match stop with
    | some n => (Concatenate.takeLines '\n' n text).2
    | none => []
  let output :=
    if q.quiet || q.filesWith || q.filesWithout then []
    else if q.counts then
      (if q.withNames then name ++ [if q.endsNames then '\x00' else ':'] else []) ++
        natText count ++ ['\n']
    else if isBinary text && !asText then []
    else withContext q name chosen none shown all
  let silent := q.quiet || q.filesWith || q.filesWithout || q.counts || asText
  ⟨output, count, isBinary text && 0 < count && !silent, rest⟩

inductive Spelling where
  | basic
  | extended
  | fixed

def options : OptionTable where
  letters := OptionTable.flags "EFGPivwxyclLoqsbHhnTZzarRUuV" ++ OptionTable.valued "efmABCdD" ++
    [('I', .none), ('O', .optional), ('N', .none), ('X', .required), ('Y', .none)]
  names := [("extended-regexp", 'E'), ("fixed-strings", 'F'), ("basic-regexp", 'G'),
    ("regexp", 'e'), ("file", 'f'), ("ignore-case", 'i'), ("invert-match", 'v'),
    ("word-regexp", 'w'), ("line-regexp", 'x'), ("count", 'c'), ("color", 'O'), ("colour", 'O'),
    ("files-without-match", 'L'), ("files-with-matches", 'l'), ("max-count", 'm'),
    ("only-matching", 'o'), ("quiet", 'q'), ("silent", 'q'), ("no-messages", 's'),
    ("byte-offset", 'b'), ("with-filename", 'H'), ("no-filename", 'h'), ("line-number", 'n'),
    ("after-context", 'A'), ("before-context", 'B'), ("context", 'C'), ("text", 'a'),
    ("null", 'Z'), ("null-data", 'z'), ("recursive", 'r'), ("no-ignore-case", 'Y'),
    ("group-separator", 'X'), ("no-group-separator", 'N'), ("line-buffered", 'u')]

def expandContext (arguments : List Bytes) : List Bytes :=
  arguments.map fun a =>
    match a with
    | '-' :: c :: rest => if (c :: rest).all Char.isDigit then "-C".toList ++ c :: rest else a
    | a => a

def filesBelow (tree : FileTree) (name : Bytes) : List Bytes :=
  match Task.path? name with
  | none => []
  | some p =>
    ((tree.walk p).filter (·.isFile)).map fun e => Bytes.ofString e.path.text

/-- Searches files for lines that match. -/
def grepWith (standard : Spelling) : Utility := fun arguments =>
  Task.withOptions "grep" 2 options (expandContext arguments) fun p => do
    let given := p.options.filterMap fun (c, value) =>
      if c = 'e' then some (Sum.inl (value.getD []))
      else if c = 'f' then some (Sum.inr (value.getD []))
      else none
    let mut patterns : List Bytes := []
    let mut operands := p.operands
    if given.isEmpty then
      match operands with
      | [] =>
        Task.complain "Usage: grep [OPTION]... PATTERNS [FILE]...".toList
        Task.complain "Try 'grep --help' for more information.".toList
        return 2
      | first :: rest =>
        patterns := cutAt '\n' first
        operands := rest
    else
      for g in given do
        match g with
        | .inl text => patterns := patterns ++ cutAt '\n' text
        | .inr file =>
          match ← Task.readOperand file with
          | .ok text => patterns := patterns ++ (Lines.ofBytes text).lines
          | .error e =>
            Task.fileFault "grep" file e
            return 2
    let kind := match p.last? "EFGP" with
      | some 'E' | some 'P' => Spelling.extended
      | some 'F' => .fixed
      | some 'G' => .basic
      | _ => standard
    let parsed := patterns.mapM fun pattern =>
      match kind with
      | .fixed => some (Regex.ofText pattern)
      | .extended => Regex.parse? (.finder true) pattern
      | .basic => Regex.parse? (.finder false) pattern
    let number (c : Char) : Option (Option Nat) := match p.value? c with
      | none => some none
      | some text => if !text.isEmpty && text.all Char.isDigit then some (some (ofDigits text))
        else none
    match parsed, number 'm', number 'A', number 'B', number 'C' with
    | some expressions, some limit, some after, some before, some context =>
      let recursive := p.has 'r' || p.has 'R'
      let tree := (← get).tree
      let files := if operands.isEmpty then
          if recursive then filesBelow tree ['.'] else [['-']]
        else operands.flatMap fun a =>
          if recursive && (Task.path? a).any tree.isDirectory then filesBelow tree a else [a]
      let q : Query :=
        { expressions := expressions
          mode := ⟨p.last? "iyY" = some 'i' || p.last? "iyY" = some 'y', false⟩
          inverted := p.has 'v'
          wholeLine := p.has 'x'
          wholeWord := p.has 'w'
          counts := p.has 'c'
          quiet := p.has 'q'
          onlyMatching := p.has 'o'
          filesWith := p.has 'l'
          filesWithout := p.has 'L'
          lineNumbers := p.has 'n'
          byteOffsets := p.has 'b'
          withNames := match p.last? "Hh" with
            | some 'H' => true
            | some _ => false
            | none => 1 < files.length || recursive
          endsNames := p.has 'Z'
          limit := limit
          before := (before.orElse fun _ => context).getD 0
          after := (after.orElse fun _ => context).getD 0
          separator := if p.has 'N' then none else some ((p.value? 'X').getD "--".toList) }
      let mut found := false
      let mut failed := false
      let mut shown := false
      for file in files do
        let name := if file = ['-'] then "(standard input)".toList else file
        match ← Task.readOperand file with
        | .ok text =>
          let r := searchText q (p.has 'a') shown name text
          if file = ['-'] then Task.leaveInput r.rest
          Task.print r.output
          if r.binary then Task.fault "grep" (name ++ ": binary file matches".toList)
          if !r.output.isEmpty then shown := true
          let listed := if q.filesWith then 0 < r.count else q.filesWithout && r.count = 0
          if listed && !q.quiet then Task.print (name ++ [if q.endsNames then '\x00' else '\n'])
          if 0 < r.count then found := true
          if q.quiet && 0 < r.count then return 0
        | .error e =>
          if !p.has 's' then Task.fileFault "grep" file e
          failed := true
      return if failed then 2 else if found then 0 else 1
    | none, _, _, _, _ =>
      Task.fault "grep" "Invalid regular expression".toList
      return 2
    | _, none, _, _, _ =>
      Task.fault "grep" "invalid max count".toList
      return 2
    | _, _, _, _, _ =>
      Task.fault "grep" "invalid context length argument".toList
      return 2

end LineSearch

end LintEngine.Shell
