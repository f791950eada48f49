import LintEngine.Number.Decimal
import LintEngine.Yaml.Cursor

namespace LintEngine.Yaml

open Number

/-- Blanks between two stretches of a scalar: the blanks of a line before its break, backwards,
then whether a line has ended, the first break and the breaks after it, backwards. -/
structure Gap where
  spaces : List Char
  broken : Bool
  first : Option Char
  more : List Char

namespace Gap

def empty : Gap := ⟨[], false, none, []⟩

def joined : Gap := ⟨[], true, none, []⟩

def text (g : Gap) : List Char :=
  if g.broken then
    if g.first = some '\n' then if g.more.isEmpty then [' '] else g.more.reverse
    else g.first.toList ++ g.more.reverse
  else g.spaces.reverse

/-- Reads blanks and breaks. Tabs may not stand left of the column `margin` at the start of a
line. The number bounds the characters that are read. -/
def scan (margin : Int) : Nat → Gap → Cursor → Except Fault (Gap × Cursor)
  | 0, g, here => .ok (g, here)
  | n + 1, g, here =>
    match here.rest with
    | [] => .ok (g, here)
    | c :: _ =>
      if isSpaceOrTab c then
        if g.broken then
          if c = '\t' && (here.column : Int) < margin then .error .tabInIndentation
          else scan margin n g (here.advance 1)
        else scan margin n { g with spaces := c :: g.spaces } (here.advance 1)
      else
        match here.takeBreak? with
        | none => .ok (g, here)
        | some (b, next) =>
          if g.broken then scan margin n { g with more := b :: g.more } next
          else scan margin n ⟨[], true, some b, g.more⟩ next

end Gap

def plainStretch (inFlow : Bool) : List Char → Except Fault (List Char)
  | [] => .ok []
  | c :: rest =>
    if blankAhead (c :: rest) then .ok []
    else if inFlow && c = ':' && (rest.head?.any (",?[]\x7b\x7d".contains ·)) then
      .error .colonInFlow
    else if (c = ':' && blankAhead rest) || (inFlow && ",[]\x7b\x7d".contains c) then .ok []
    else do
      let more ← plainStretch inFlow rest
      .ok (c :: more)

structure Scanned where
  text : List Char
  lineEnded : Bool
  next : Cursor

def plainFrom (inFlow : Bool) (margin : Int) :
    Nat → List Char → Gap → Cursor → Except Fault Scanned
  | 0, text, gap, here => .ok ⟨text, gap.broken, here⟩
  | n + 1, text, gap, here =>
    if here.atDocumentMark || here.rest.head? = some '#' then .ok ⟨text, gap.broken, here⟩
    else do
      let stretch ← plainStretch inFlow here.rest
      let next := here.advance stretch.length
      let (text, gap) :=
        if stretch.isEmpty then (text, gap) else (text ++ gap.text ++ stretch, Gap.empty)
      if next.rest.isEmpty || !blankAhead next.rest then .ok ⟨text, gap.broken, next⟩
      else
        let (gap, next) ← gap.scan margin next.rest.length next
        if !inFlow && (next.column : Int) < margin then .ok ⟨text, gap.broken, next⟩
        else plainFrom inFlow margin n text gap next

def scanPlain (inFlow : Bool) (indent : Int) (here : Cursor) : Except Fault Scanned :=
  plainFrom inFlow (indent + 1) (here.rest.length + 1) [] .empty here

/-- The character for an escape without digits. -/
def escapeChar? : Char → Option Char
  | '0' => some '\x00'
  | 'a' => some '\x07'
  | 'b' => some '\x08'
  | 't' => some '\t'
  | '\t' => some '\t'
  | 'n' => some '\n'
  | 'v' => some '\x0b'
  | 'f' => some '\x0c'
  | 'r' => some '\r'
  | 'e' => some '\x1b'
  | ' ' => some ' '
  | '"' => some '"'
  | '/' => some '/'
  | '\\' => some '\\'
  | 'N' => some '\u0085'
  | '_' => some '\u00a0'
  | 'L' => some '\u2028'
  | 'P' => some '\u2029'
  | _ => none

def escapeDigits? : Char → Option Nat
  | 'x' => some 2
  | 'u' => some 4
  | 'U' => some 8
  | _ => none

def charOfNumber? (n : Nat) : Option Char :=
  if 0xD800 ≤ n && n ≤ 0xDFFF || 0x10FFFF < n then none else some (Char.ofNat n)

/-- Reads an escape after its backslash, and gives the number of characters after the
backslash. -/
def escape? : List Char → Option (Char × Nat)
  | [] => none
  | c :: rest =>
    match escapeDigits? c with
    | none => (escapeChar? c).map fun d => (d, 1)
    | some n => do
      let digits := rest.take n
      if digits.length < n then none
      else
        let value ← ofRadix? 16 digits
        let d ← charOfNumber? value
        some (d, n + 1)

inductive QuoteStop where
  | gap
  | escapedBreak
  | quote

/-- Reads the characters of a quoted scalar up to the next blank, to an escaped break or to the
quote at the end. The number bounds the characters that are read. -/
def quotedStretch (single : Bool) :
    Nat → List Char → Cursor → Except Fault (List Char × QuoteStop × Cursor)
  | 0, _, _ => .error .unterminatedQuote
  | n + 1, text, here =>
    match here.rest with
    | [] => .ok (text, .gap, here)
    | c :: rest =>
      if blankAhead (c :: rest) then .ok (text, .gap, here)
      else if single && c = '\'' && rest.head? = some '\'' then
        quotedStretch single n ('\'' :: text) (here.advance 2)
      else if c = (if single then '\'' else '"') then .ok (text, .quote, here.advance 1)
      else if !single && c = '\\' then
        if !rest.isEmpty && breakAhead rest then
          .ok (text, .escapedBreak, (here.advance 1).skipBreak)
        else
          match escape? rest with
          | some (d, length) => quotedStretch single n (d :: text) (here.advance (length + 1))
          | none => .error .malformedEscape
      else quotedStretch single n (c :: text) (here.advance 1)

/-- Reads a quoted scalar, of which `text` has been read, backwards. The number bounds the
characters that are read. -/
def quotedFrom (single : Bool) : Nat → List Char → Cursor → Except Fault Scanned
  | 0, _, _ => .error .unterminatedQuote
  | n + 1, text, here =>
    if here.atDocumentMark then .error .unterminatedQuote
    else if here.rest.isEmpty then .error .unterminatedQuote
    else do
      let (text, stop, next) ← quotedStretch single (here.rest.length + 1) text here
      match stop with
      | .quote => .ok ⟨text.reverse, false, next⟩
      | .gap =>
        let (gap, next) ← Gap.empty.scan 0 next.rest.length next
        quotedFrom single n (gap.text.reverse ++ text) next
      | .escapedBreak =>
        if next.rest.head? = some '"' then .ok ⟨text.reverse, false, next.advance 1⟩
        else
          let (gap, next) ← Gap.joined.scan 0 next.rest.length next
          quotedFrom single n (gap.text.reverse ++ text) next

def scanQuoted (single : Bool) (here : Cursor) : Except Fault Scanned :=
  quotedFrom single (here.rest.length + 1) [] (here.advance 1)

inductive Chomping where
  | strip
  | clip
  | keep
deriving DecidableEq, Repr

def chomping? : List Char → Option Chomping
  | '+' :: _ => some .keep
  | '-' :: _ => some .strip
  | _ => none

def indentDigit? : List Char → Option Nat
  | c :: _ => if c.isDigit then some (c.toNat - '0'.toNat) else none
  | [] => none

/-- Reads the signs after the mark of a block scalar: how it ends and how far it is indented, in
either order. -/
def blockHeader (here : Cursor) : Except Fault (Chomping × Option Nat × Cursor) := do
  let (chomping, indent, next) :=
    match chomping? here.rest with
    | some k =>
      let next := here.advance 1
      match indentDigit? next.rest with
      | some d => (k, some d, next.advance 1)
      | none => (k, none, next)
    | none =>
      match indentDigit? here.rest with
      | some d =>
        let next := here.advance 1
        match chomping? next.rest with
        | some k => (k, some d, next.advance 1)
        | none => (.clip, some d, next)
      | none => (.clip, none, here)
  if indent = some 0 then .error .malformedBlockScalar
  else
    let next := (next.advanceWhile isSpaceOrTab).skipComment
    if breakAhead next.rest then .ok (chomping, indent, next.skipBreak)
    else .error .malformedBlockScalar

/-- Reads empty lines and the spaces before the next line of a block. Gives the breaks, backwards,
and the greatest column met. The number bounds the lines that are read. -/
def blockBreaks (indent : Option Nat) :
    Nat → List Char → Nat → Cursor → Except Fault (List Char × Nat × Cursor)
  | 0, breaks, widest, here => .ok (breaks, widest, here)
  | n + 1, breaks, widest, here =>
    let spaces := (here.rest.takeWhile (· = ' ')).length
    let next := here.advance (match indent with
      | some i => min spaces (i - here.column)
      | none => spaces)
    let widest := max widest next.column
    let inside := match indent with
      | some i => next.column < i
      | none => true
    if inside && next.rest.head? = some '\t' then .error .tabInIndentation
    else
      match next.takeBreak? with
      | some (b, after) => blockBreaks indent n (b :: breaks) widest after
      | none => .ok (breaks, widest, next)

/-- The text of a block scalar so far, backwards, with the break after the last line, the breaks
after that, backwards, and whether the last line started with a blank. -/
structure Block where
  text : List Char
  lastBreak : Option Char
  breaks : List Char
  blankLine : Bool

/-- Reads the lines of a block scalar. The number bounds the lines that are read. -/
def blockLines (folded : Bool) (indent : Nat) :
    Nat → Block → Cursor → Except Fault (Block × Cursor)
  | 0, b, here => .ok (b, here)
  | n + 1, b, here =>
    if here.column = indent && !here.rest.isEmpty then do
      let blank := here.rest.head?.any isSpaceOrTab
      let text :=
        if folded && b.lastBreak = some '\n' && !b.blankLine && !blank then
          b.breaks ++ (if b.breaks.isEmpty then [' '] else []) ++ b.text
        else b.breaks ++ b.lastBreak.toList ++ b.text
      let line := here.rest.takeWhile fun c => !isBreak c
      let next := here.advance line.length
      let (lastBreak, next) := match next.takeBreak? with
        | some (c, after) => (some c, after)
        | none => (none, next)
      let (breaks, _, next) ← blockBreaks (some indent) (next.rest.length + 1) [] 0 next
      blockLines folded indent n ⟨line.reverse ++ text, lastBreak, breaks, blank⟩ next
    else .ok (b, here)

/-- Reads a block scalar that starts with its mark here, inside of a block with the given
indentation. -/
def scanBlock (folded : Bool) (parent : Int) (here : Cursor) : Except Fault Scanned := do
  let (chomping, increment, next) ← blockHeader (here.advance 1)
  let declared := increment.map fun n => n + parent.toNat
  let (breaks, widest, next) ← blockBreaks declared (next.rest.length + 1) [] 0 next
  let indent := declared.getD (max (max widest (parent + 1).toNat) 1)
  let (b, next) ← blockLines folded indent (next.rest.length + 1) ⟨[], none, breaks, false⟩ next
  let text := if chomping = .strip then b.text else b.lastBreak.toList ++ b.text
  let text := if chomping = .keep then b.breaks ++ text else text
  .ok ⟨text.reverse, false, next⟩

end LintEngine.Yaml
