import LintEngine.Shell.Bytes

namespace LintEngine.Shell

open Number

inductive Regex where
  | empty
  | char (c : Char)
  | any
  | set (negated : Bool) (ranges : List (Char × Char))
  | lineStart
  | lineEnd
  | textStart
  | textEnd
  | wordEdge
  | inWord
  | wordStart
  | wordEnd
  | group (number : Nat) (r : Regex)
  | back (number : Nat)
  | times (r : Regex) (least : Nat) (most : Option Nat)
  | seq (a b : Regex)
  | alt (a b : Regex)
deriving DecidableEq

namespace Regex

/-- How an expression is matched: whether the case of letters counts, and whether lines inside of
the text have starts and ends of their own. -/
structure Mode where
  ignoreCase : Bool
  multiline : Bool
deriving DecidableEq

def Mode.plain : Mode := ⟨false, false⟩

/-- How far a match has come: the characters passed, backwards, those left, and what the groups
have matched. -/
structure Progress where
  passed : Bytes
  rest : Bytes
  groups : List (Nat × Bytes)
deriving DecidableEq

def isWord (c : Char) : Bool := c.isAlphanum || c = '_'

def swapCase (c : Char) : Char := if c.isUpper then c.toLower else c.toUpper

def sameChar (ignoreCase : Bool) (a b : Char) : Bool :=
  a = b || (ignoreCase && a.toLower = b.toLower)

def inSet (ignoreCase : Bool) (ranges : List (Char × Char)) (c : Char) : Bool :=
  ranges.any fun r => (r.1 ≤ c && c ≤ r.2) ||
    (ignoreCase && r.1 ≤ swapCase c && swapCase c ≤ r.2)

namespace Progress

def afterWord (p : Progress) : Bool := p.passed.head?.any isWord

def beforeWord (p : Progress) : Bool := p.rest.head?.any isWord

def stayIf (p : Progress) (condition : Bool) : List Progress :=
  if condition then [p] else []

def step (p : Progress) (accept : Char → Bool) : List Progress :=
  match p.rest with
  | c :: rest => if accept c then [{ p with passed := c :: p.passed, rest := rest }] else []
  | [] => []

def literal (ignoreCase : Bool) : Bytes → Progress → List Progress
  | [], p => [p]
  | c :: more, p =>
    match p.rest with
    | d :: rest =>
      if sameChar ignoreCase c d then
        literal ignoreCase more { p with passed := d :: p.passed, rest := rest }
      else []
    | [] => []

/-- Whether two ways to match go on alike. What groups have matched counts only where it can be
referred to. -/
def same (groupsCount : Bool) (p q : Progress) : Bool :=
  p.rest.length = q.rest.length && (!groupsCount || p.groups = q.groups)

def distinct (groupsCount : Bool) (ps : List Progress) : List Progress :=
  (ps.foldl (fun kept p => if kept.any (same groupsCount p) then kept else p :: kept) []).reverse

end Progress

/-- All ways to repeat a step any number of times, after those that were found before. Each step
has to pass over something. The number bounds the steps. -/
def closure (groupsCount : Bool) (once : Progress → List Progress) :
    Nat → List Progress → Progress → List Progress
  | 0, found, p => found ++ [p]
  | n + 1, found, p =>
    let further := (once p).filter fun q => q.rest.length < p.rest.length
    let found := further.foldl (fun found q =>
      if found.any (q.same groupsCount) then found else closure groupsCount once n found q) found
    if found.any (p.same groupsCount) then found else found ++ [p]

def atMost (groupsCount : Bool) (once : Progress → List Progress) :
    Nat → Progress → List Progress
  | 0, p => [p]
  | n + 1, p =>
    let further := (once p).filter fun q => q.rest.length < p.rest.length
    Progress.distinct groupsCount (further.flatMap (atMost groupsCount once n) ++ [p])

def exactly (groupsCount : Bool) (once : Progress → List Progress) :
    Nat → List Progress → List Progress
  | 0, ps => ps
  | n + 1, ps => exactly groupsCount once n (Progress.distinct groupsCount (ps.flatMap once))

/-- All ways in which an expression matches from some point on, the preferred ones first. -/
def ends (mode : Mode) (groupsCount : Bool) : Regex → Progress → List Progress
  | empty, p => [p]
  | char c, p => p.step (sameChar mode.ignoreCase c)
  | any, p => p.step fun _ => true
  | set negated ranges, p => p.step fun c => inSet mode.ignoreCase ranges c != negated
  | lineStart, p => p.stayIf (p.passed.isEmpty || (mode.multiline && p.passed.head? = some '\n'))
  | lineEnd, p => p.stayIf (p.rest.isEmpty || (mode.multiline && p.rest.head? = some '\n'))
  | textStart, p => p.stayIf p.passed.isEmpty
  | textEnd, p => p.stayIf p.rest.isEmpty
  | wordEdge, p => p.stayIf (p.afterWord != p.beforeWord)
  | inWord, p => p.stayIf (p.afterWord == p.beforeWord)
  | wordStart, p => p.stayIf (!p.afterWord && p.beforeWord)
  | wordEnd, p => p.stayIf (p.afterWord && !p.beforeWord)
  | group number r, p =>
    (ends mode groupsCount r p).map fun q =>
      let text := q.passed.take (q.passed.length - p.passed.length)
      { q with groups := (number, text.reverse) :: q.groups.filter (·.1 ≠ number) }
  | back number, p =>
    match p.groups.lookup number with
    | some text => Progress.literal mode.ignoreCase text p
    | none => []
  | times r least most, p =>
    let needed := exactly groupsCount (ends mode groupsCount r) least [p]
    Progress.distinct groupsCount (needed.flatMap fun q =>
      match most with
      | some most => atMost groupsCount (ends mode groupsCount r) (most - least) q
      | none => closure groupsCount (ends mode groupsCount r) (q.rest.length + 1) [] q)
  | seq a b, p =>
    Progress.distinct groupsCount
      ((ends mode groupsCount a p).flatMap (ends mode groupsCount b))
  | alt a b, p =>
    Progress.distinct groupsCount (ends mode groupsCount a p ++ ends mode groupsCount b p)

def refersBack : Regex → Bool
  | back _ => true
  | group _ r => r.refersBack
  | times r _ _ => r.refersBack
  | seq a b => a.refersBack || b.refersBack
  | alt a b => a.refersBack || b.refersBack
  | _ => false

def longest (ps : List Progress) : Option Progress :=
  ps.foldl (fun best p =>
    match best with
    | none => some p
    | some q => if p.rest.length < q.rest.length then some p else some q) none

def matchHere (mode : Mode) (r : Regex) (passed rest : Bytes) : Option Progress :=
  longest (r.ends mode r.refersBack ⟨passed, rest, []⟩)

/-- A match: the text before it from where the search began, what it covers, the groups, and the
point after it. -/
structure Match where
  before : Bytes
  text : Bytes
  groups : List (Nat × Bytes)
  passed : Bytes
  rest : Bytes

def Match.group (m : Match) (number : Nat) : Bytes :=
  if number = 0 then m.text else (m.groups.lookup number).getD []

def searchFrom (mode : Mode) (r : Regex) (skipped passed : Bytes) : Bytes → Option Match
  | [] => (r.matchHere mode passed []).map fun p => ⟨skipped.reverse, [], p.groups, passed, []⟩
  | c :: rest =>
    match r.matchHere mode passed (c :: rest) with
    | some p =>
      let text := (p.passed.take (p.passed.length - passed.length)).reverse
      some ⟨skipped.reverse, text, p.groups, p.passed, p.rest⟩
    | none => searchFrom mode r (c :: skipped) (c :: passed) rest

def search? (mode : Mode) (r : Regex) (passed rest : Bytes) : Option Match :=
  searchFrom mode r [] passed rest

def occursIn (mode : Mode) (r : Regex) (text : Bytes) : Bool :=
  (r.search? mode [] text).isSome

def searchFilled (mode : Mode) (r : Regex) (skipped passed : Bytes) : Bytes → Option Match
  | [] => none
  | c :: rest =>
    match r.matchHere mode passed (c :: rest) with
    | some p =>
      let text := (p.passed.take (p.passed.length - passed.length)).reverse
      if text.isEmpty then searchFilled mode r (c :: skipped) (c :: passed) rest
      else some ⟨skipped.reverse, text, p.groups, p.passed, p.rest⟩
    | none => searchFilled mode r (c :: skipped) (c :: passed) rest

/-- All matches in what is left of a text, from left to right, each with what is between it and the
one before it; an empty one does not count right after another one. The number bounds them, and
`skipped` is what is passed since the last match, backwards. -/
def allMatches (mode : Mode) (r : Regex) :
    Nat → (afterMatch : Bool) → (skipped passed rest : Bytes) → List Match
  | 0, _, _, _, _ => []
  | n + 1, afterMatch, skipped, passed, rest =>
    match searchFrom mode r skipped passed rest with
    | none => []
    | some m =>
      if !m.text.isEmpty then m :: allMatches mode r n true [] m.passed m.rest
      else
        let ignored := afterMatch && m.rest.length = rest.length
        let more := match m.rest with
          | c :: rest =>
            allMatches mode r n false (if ignored then c :: skipped else [c]) (c :: m.passed) rest
          | [] => []
        if ignored then more else m :: more

def matchesIn (mode : Mode) (r : Regex) (text : Bytes) : List Match :=
  r.allMatches mode (text.length + 2) false [] [] text

def ofText (text : Bytes) : Regex :=
  text.foldr (fun c r => .seq (.char c) r) .empty

def namedClass? (name : String) : Option (List (Char × Char)) :=
  [("alpha", [('A', 'Z'), ('a', 'z')]), ("digit", [('0', '9')]),
    ("alnum", [('0', '9'), ('A', 'Z'), ('a', 'z')]), ("upper", [('A', 'Z')]),
    ("lower", [('a', 'z')]), ("space", [('\t', '\r'), (' ', ' ')]),
    ("blank", [('\t', '\t'), (' ', ' ')]),
    ("punct", [('!', '/'), (':', '@'), ('[', '\x60'), ('\x7b', '~')]),
    ("xdigit", [('0', '9'), ('A', 'F'), ('a', 'f')]),
    ("cntrl", [('\x00', '\x1f'), ('\x7f', '\x7f')]), ("print", [(' ', '~')]),
    ("graph", [('!', '~')])].lookup name

structure Dialect where
  extended : Bool
  controls : Bool
  escapesInSets : Bool
  classes : Bool
  strict : Bool
  filled : Bool
deriving DecidableEq

namespace Dialect

def editor (extended : Bool) : Dialect := ⟨extended, false, false, true, true, false⟩

def finder (extended : Bool) : Dialect := ⟨extended, false, false, true, false, false⟩

def scanner : Dialect := ⟨true, true, true, false, false, true⟩

end Dialect

def numbered? (base most : Nat) (text : Bytes) : Option (Char × Bytes) :=
  let digits := (text.take most).takeWhile fun c => (hexValue? c).any (· < base)
  if digits.isEmpty then none
  else some (byteChar ((ofRadix? base digits).getD 0), text.drop digits.length)

/-- The character that a backslash with what follows it stands for, if it is a control character
or given by its number. -/
def control? (d : Dialect) (c : Char) (rest : Bytes) : Option (Char × Bytes) :=
  if !d.controls then none
  else if d.classes then
    if "afnrtv".contains c then (controlChar? c).map fun x => (x, rest)
    else if c = 'd' then numbered? 10 3 rest
    else if c = 'o' then numbered? 8 3 rest
    else if c = 'x' then numbered? 16 2 rest
    else if c = 'c' then
      match rest with
      | x :: more => some (byteChar (x.toUpper.toNat ^^^ 0x40), more)
      | [] => none
    else none
  else if isOctal c then numbered? 8 3 (c :: rest)
  else if c = '\\' then none
  else (controlChar? c).map fun x => (x, rest)

def setEnd? (d : Dialect) (text : Bytes) : Option (Char × Bytes) :=
  match text with
  | [] => none
  | '[' :: '.' :: c :: '.' :: ']' :: rest => some (c, rest)
  | '[' :: '=' :: c :: '=' :: ']' :: rest => some (c, rest)
  | '\\' :: c :: rest =>
    match control? d c rest with
    | some found => some found
    | none => if d.escapesInSets then some (c, rest) else some ('\\', c :: rest)
  | c :: rest => some (c, rest)

/-- Reads the members of a set up to its bracket. The number bounds them. -/
def setMembers (d : Dialect) :
    Nat → Bool → List (Char × Char) → Bytes → Option (List (Char × Char) × Bytes)
  | 0, _, _, _ => none
  | _ + 1, _, _, [] => none
  | n + 1, first, ranges, c :: rest =>
    if c = ']' && !first then some (ranges, rest)
    else
      match c, rest with
      | '[', ':' :: more => do
        let classRanges ← namedClass? (String.ofList (more.takeWhile (· ≠ ':')))
        match more.dropWhile (· ≠ ':') with
        | ':' :: ']' :: after => setMembers d n false (ranges ++ classRanges) after
        | _ => none
      | c, rest => do
        let (low, rest) ← setEnd? d (c :: rest)
        match rest with
        | '-' :: x :: more =>
          if x = ']' then setMembers d n false (ranges ++ [(low, low)]) ('-' :: x :: more)
          else
            let (high, rest) ← setEnd? d (x :: more)
            let continued := match rest with
              | '-' :: y :: _ => y ≠ ']'
              | _ => false
            if d.filled && high < low then
              setMembers d n false (ranges ++ [(low, low), ('-', '-')]) (x :: more)
            else if d.filled && continued then
              setMembers d n false (ranges ++ [(low, high), ('-', '-')]) (rest.drop 1)
            else if high < low || continued then none
            else setMembers d n false (ranges ++ [(low, high)]) rest
        | rest => setMembers d n false (ranges ++ [(low, low)]) rest

def isBareClass (text : Bytes) : Bool :=
  let name := (text.drop 1).takeWhile (· ≠ ']')
  text.head? = some ':' && 1 < name.length && name.getLast? = some ':'

def setOf? (d : Dialect) (text : Bytes) : Option (Regex × Bytes) :=
  if d.classes && isBareClass text then none
  else
  match text with
  | '^' :: rest => do
    let (ranges, rest) ← setMembers d (rest.length + 1) true [] rest
    some (.set true ranges, rest)
  | text => do
    let (ranges, rest) ← setMembers d (text.length + 1) true [] text
    some (.set false ranges, rest)

structure Mark where
  char : Char
  escaped : Bool
deriving DecidableEq

def mark? : Bytes → Option (Mark × Bytes)
  | [] => none
  | '\\' :: c :: rest => some (⟨c, true⟩, rest)
  | c :: rest => some (⟨c, false⟩, rest)

/-- Whether a mark is the special one of a notation: with a backslash in the basic one, without in
the extended one. -/
def Mark.isSpecial (d : Dialect) (m : Mark) (c : Char) : Bool :=
  m.char = c && m.escaped != d.extended

def repetitionLimit : Nat := 32767

def bounds? (d : Dialect) (text : Bytes) : Option (Nat × Option Nat × Bytes) :=
  let low := text.takeWhile Char.isDigit
  let rest := text.dropWhile Char.isDigit
  let (high, open?, rest) := match rest with
    | ',' :: more =>
      let digits := more.takeWhile Char.isDigit
      ((if digits.isEmpty then none else some (ofDigits digits)), true,
        more.dropWhile Char.isDigit)
    | rest => (some (ofDigits low), false, rest)
  match mark? rest with
  | some (m, rest) =>
    if !m.isSpecial d '\x7d' || (low.isEmpty && !open?) || high.any (· < ofDigits low) ||
        (high.getD (ofDigits low)) > repetitionLimit then none
    else some (ofDigits low, high, rest)
  | none => none

def boundsReversed (text : Bytes) : Bool :=
  let low := text.takeWhile Char.isDigit
  match text.drop low.length with
  | ',' :: rest =>
    let high := rest.takeWhile Char.isDigit
    !low.isEmpty && !high.isEmpty && ofDigits high < ofDigits low &&
      (rest.drop high.length).head? = some '\x7d'
  | _ => false

def escapedClass? : Char → Option Regex
  | 'w' => some (.set false [('a', 'z'), ('A', 'Z'), ('0', '9'), ('_', '_')])
  | 'W' => some (.set true [('a', 'z'), ('A', 'Z'), ('0', '9'), ('_', '_')])
  | 's' => some (.set false [(' ', ' '), ('\t', '\r')])
  | 'S' => some (.set true [(' ', ' '), ('\t', '\r')])
  | 'b' => some .wordEdge
  | 'B' => some .inWord
  | '<' => some .wordStart
  | '>' => some .wordEnd
  | '\x60' => some .textStart
  | '\'' => some .textEnd
  | _ => none

def repetitions (d : Dialect) : Nat → Bool → Regex → Bytes → Option (Regex × Bytes)
  | 0, _, r, text => some (r, text)
  | n + 1, repeated, r, text =>
    match mark? text with
    | none => some (r, text)
    | some (m, rest) =>
      let twice := repeated && d.strict && !d.extended
      if m = ⟨'*', false⟩ then
        if twice then none else repetitions d n true (.times r 0 none) rest
      else if m.isSpecial d '+' then repetitions d n true (.times r 1 none) rest
      else if m.isSpecial d '?' then repetitions d n true (.times r 0 (some 1)) rest
      else if m.isSpecial d '\x7b' then
        match bounds? d rest with
        | some (low, high, rest) =>
          if twice then none else repetitions d n true (.times r low high) rest
        | none =>
          if d.strict || !d.extended || (d.filled && boundsReversed rest) then none
          else some (r, text)
      else some (r, text)

def Mark.repeats (d : Dialect) (m : Mark) : Bool :=
  m = ⟨'*', false⟩ || m.isSpecial d '+' || m.isSpecial d '?' || m.isSpecial d '\x7b'

def endsBefore (d : Dialect) (rest : Bytes) : Bool :=
  d.extended || rest.isEmpty ||
    (mark? rest).any fun x => x.1.isSpecial d ')' || x.1.isSpecial d '|'

inductive Spot where
  | start
  | afterStart
  | middle
deriving DecidableEq

def dropRepetition (d : Dialect) (m : Mark) (rest : Bytes) : Bytes :=
  if m.char = '\x7b' then
    match bounds? d rest with
    | some (_, _, rest) => rest
    | none => rest
  else rest

mutual
/-- Reads alternatives, `depth` groups deep; groups are numbered from `number` on. -/
def alternatives (d : Dialect) (depth : Nat) : Nat → Nat → Bytes → Option (Regex × Nat × Bytes)
  | 0, _, _ => none
  | n + 1, number, text => do
    let (first, number, rest) ← sequence d depth n .start number text
    if d.filled && first = .empty then none
    match mark? rest with
    | some (m, after) =>
      if m.isSpecial d '|' then
        let (second, number, rest) ← alternatives d depth n number after
        some (.alt first second, number, rest)
      else some (first, number, rest)
    | none => some (first, number, rest)
/-- Reads a sequence up to the end of its group or alternative. -/
def sequence (d : Dialect) (depth : Nat) :
    Nat → Spot → Nat → Bytes → Option (Regex × Nat × Bytes)
  | 0, _, _, _ => none
  | n + 1, spot, number, text =>
    match mark? text with
    | none => some (.empty, number, text)
    | some (m, rest) =>
      if m.isSpecial d '|' || (m.isSpecial d ')' && (0 < depth || d.strict || !d.extended)) then
        some (.empty, number, text)
      else if m = ⟨'^', false⟩ && (d.extended || spot = .start) then do
        let (more, number, rest) ← sequence d depth n .afterStart number rest
        some (.seq .lineStart more, number, rest)
      else if m.repeats d && spot ≠ .middle && d.extended then
        if d.strict || (d.filled && m.char ≠ '\x7b') then none
        else sequence d depth n spot number (dropRepetition d m rest)
      else if m.repeats d && spot ≠ .middle && m.char = '\x7b' && d.strict then none
      else do
        let literal := m.repeats d && spot ≠ .middle
        let (atom, number, rest) ← if literal then some (.char m.char, number, rest)
          else atom d depth n number m rest
        let anchored := d.extended && d.strict && atom = .lineEnd &&
          (mark? rest).any fun x => x.1.repeats d
        if anchored then none
        else
          let (item, rest) ← repetitions d n false atom rest
          let (more, number, rest) ← sequence d depth n .middle number rest
          some (.seq item more, number, rest)
/-- Reads what one mark stands for. -/
def atom (d : Dialect) (depth : Nat) :
    Nat → Nat → Mark → Bytes → Option (Regex × Nat × Bytes)
  | 0, _, _, _ => none
  | n + 1, number, m, rest =>
    if m.isSpecial d '(' then do
      let (r, next, rest) ← alternatives d (depth + 1) n (number + 1) rest
      match mark? rest with
      | some (close, rest) =>
        if close.isSpecial d ')' then some (.group number r, next, rest) else none
      | none => none
    else if m = ⟨'[', false⟩ then do
      let (r, rest) ← setOf? d rest
      some (r, number, rest)
    else if m = ⟨'.', false⟩ then some (.any, number, rest)
    else if m = ⟨'$', false⟩ && endsBefore d rest then some (.lineEnd, number, rest)
    else if m.escaped then
      match control? d m.char rest with
      | some (c, rest) => some (.char c, number, rest)
      | none =>
        if d.classes && m.char.isDigit && m.char ≠ '0' then
          if m.char.toNat - '0'.toNat < number then
            some (.back (m.char.toNat - '0'.toNat), number, rest)
          else none
        else
          match (if d.classes then escapedClass? m.char else none) with
          | some r => some (r, number, rest)
          | none => some (.char m.char, number, rest)
    else if m.char = '\\' && !d.filled then none
    else some (.char m.char, number, rest)
end

def parse? (d : Dialect) (text : Bytes) : Option Regex :=
  if text.isEmpty then some .empty
  else
    match alternatives d 0 (4 * text.length + 8) 1 text with
    | some (r, _, []) => some r
    | _ => none

end Regex

end LintEngine.Shell
