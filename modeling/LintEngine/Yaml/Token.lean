import LintEngine.Yaml.Scalar

namespace LintEngine.Yaml

open Number

/-- A token. Tags are held as bytes, since escapes in them need not make up text. -/
inductive Token where
  | versionDirective (major minor : Nat)
  | tagDirective (handle leading : List UInt8)
  | documentStart
  | documentEnd
  | blockSequenceStart
  | blockMappingStart
  | blockEnd
  | flowSequenceStart
  | flowSequenceEnd
  | flowMappingStart
  | flowMappingEnd
  | blockEntry
  | flowEntry
  | key
  | value
  | alias (name : String)
  | anchor (name : String)
  | tag (handle suffix : List UInt8)
  | scalar (text : String) (plain : Bool)
deriving DecidableEq, Repr

/-- A place that becomes a key if a colon follows in the same line; `required` if nothing else
can stand there. -/
structure KeyCandidate where
  required : Bool
  token : Nat
  index : Nat
  line : Nat
  column : Nat

/-- A text of which some tokens have been read: the column of the innermost block and of those
around it, the number of open brackets, whether a key may start here, and a candidate for a key
on each level of brackets. -/
structure Scan where
  here : Cursor
  tokens : Array Token
  indent : Int
  indents : List Int
  flow : Nat
  keyAllowed : Bool
  keys : List (Option KeyCandidate)

namespace Scan

def start (text : List Char) : Scan :=
  ⟨⟨text, 0, 0, 0⟩, #[], -1, [], 0, true, [none]⟩

def inFlow (s : Scan) : Bool :=
  0 < s.flow

def push (s : Scan) (t : Token) : Scan :=
  { s with tokens := s.tokens.push t }

def dropKey (s : Scan) : Except Fault Scan :=
  match s.keys with
  | some k :: rest =>
    if k.required then .error .missingColon else .ok { s with keys := none :: rest }
  | _ => .ok s

def saveKey (s : Scan) : Except Fault Scan :=
  if s.keyAllowed then do
    let required := !s.inFlow && s.indent = s.here.column
    let s ← s.dropKey
    let k : KeyCandidate :=
      ⟨required, s.tokens.size, s.here.index, s.here.line, s.here.column⟩
    .ok { s with keys := some k :: s.keys.tail }
  else .ok s

def keyLimit : Nat := 1024

def dropStale (here : Cursor) :
    List (Option KeyCandidate) → Except Fault (List (Option KeyCandidate))
  | [] => .ok []
  | some k :: rest =>
    if k.line < here.line || k.index + keyLimit < here.index then
      if k.required then .error .missingColon
      else do
        let rest ← dropStale here rest
        .ok (none :: rest)
    else do
      let rest ← dropStale here rest
      .ok (some k :: rest)
  | none :: rest => do
    let rest ← dropStale here rest
    .ok (none :: rest)

def closeBlocks (column : Int) : List Int → Scan → Scan
  | [], s => s
  | outer :: rest, s =>
    if column < s.indent then
      closeBlocks column rest { s.push .blockEnd with indent := outer, indents := rest }
    else s

def unroll (s : Scan) (column : Int) : Scan :=
  if s.inFlow then s else closeBlocks column s.indents s

/-- Opens a block at a column, outside of brackets, if it is indented further than the innermost
one. Its token goes to the given place. -/
def roll (s : Scan) (column place : Nat) (t : Token) : Scan :=
  if !s.inFlow && s.indent < column then
    { s with
      indents := s.indent :: s.indents
      indent := column
      tokens := s.tokens.insertIdxIfInBounds place t }
  else s

/-- Passes over blanks, comments and line breaks, and over a byte order mark at the start of each
line. The number bounds the lines. -/
def skipBlanks : Nat → Scan → Scan
  | 0, s => s
  | n + 1, s =>
    let here := if s.here.column = 0 && s.here.rest.head? = some '\ufeff' then s.here.advance 1
      else s.here
    let tabs := s.inFlow || !s.keyAllowed
    let here := (here.advanceWhile fun c => c = ' ' || (tabs && c = '\t')).skipComment
    match here.takeBreak? with
    | some (_, next) =>
      skipBlanks n { s with here := next, keyAllowed := s.keyAllowed || !s.inFlow }
    | none => { s with here := here }

def take (s : Scan) (length : Nat) (t : Token) : Scan :=
  { s with here := s.here.advance length }.push t

def documentMark (s : Scan) (t : Token) : Except Fault Scan := do
  let s ← (s.unroll (-1)).dropKey
  .ok ({ s with keyAllowed := false }.take 3 t)

def flowStart (s : Scan) (t : Token) : Except Fault Scan := do
  let s ← s.saveKey
  .ok ({ s with keys := none :: s.keys, flow := s.flow + 1, keyAllowed := true }.take 1 t)

def flowEnd (s : Scan) (t : Token) : Except Fault Scan := do
  let s ← s.dropKey
  let s := if s.inFlow then { s with flow := s.flow - 1, keys := s.keys.tail } else s
  .ok ({ s with keyAllowed := false }.take 1 t)

def flowEntry (s : Scan) : Except Fault Scan := do
  let s ← s.dropKey
  .ok ({ s with keyAllowed := true }.take 1 .flowEntry)

def blockEntry (s : Scan) : Except Fault Scan := do
  if !s.inFlow && !s.keyAllowed then .error .misplacedEntry
  else
    let s ← (s.roll s.here.column s.tokens.size .blockSequenceStart).dropKey
    .ok ({ s with keyAllowed := true }.take 1 .blockEntry)

def keyMark (s : Scan) : Except Fault Scan := do
  if !s.inFlow && !s.keyAllowed then .error .misplacedKey
  else
    let s ← (s.roll s.here.column s.tokens.size .blockMappingStart).dropKey
    .ok ({ s with keyAllowed := !s.inFlow }.take 1 .key)

def valueMark (s : Scan) : Except Fault Scan :=
  match s.keys with
  | some k :: rest =>
    let s := { s with tokens := s.tokens.insertIdxIfInBounds k.token .key }
    let s := s.roll k.column k.token .blockMappingStart
    .ok ({ s with keys := none :: rest, keyAllowed := false }.take 1 .value)
  | _ =>
    if !s.inFlow && !s.keyAllowed then .error .misplacedValue
    else
      let s := s.roll s.here.column s.tokens.size .blockMappingStart
      .ok ({ s with keyAllowed := !s.inFlow }.take 1 .value)

def anchor (s : Scan) (make : String → Token) : Except Fault Scan := do
  let s ← s.saveKey
  let rest := s.here.rest.tail
  let name := rest.takeWhile isWordChar
  let after := rest.dropWhile isWordChar
  if name.isEmpty || !(blankAhead after || after.head?.any ("?:,]\x7d%@\x60".contains ·)) then
    .error .malformedAnchor
  else .ok ({ s with keyAllowed := false }.take (name.length + 1) (make (String.ofList name)))

def announcedBytes? (b : Nat) : Option Nat :=
  if b < 0x80 then some 1
  else if b / 0x20 = 6 then some 2
  else if b / 0x10 = 14 then some 3
  else if b / 0x08 = 30 then some 4
  else none

/-- Reads bytes written as a percent sign and two digits each: `more` of them inside of a
character. -/
def continuationBytes : Nat → List Char → Option (List UInt8 × List Char)
  | 0, rest => some ([], rest)
  | n + 1, '%' :: a :: b :: rest => do
    let byte ← ofRadix? 16 [a, b]
    if byte / 0x40 = 2 then
      let (bytes, rest) ← continuationBytes n rest
      some (UInt8.ofNat byte :: bytes, rest)
    else none
  | _ + 1, _ => none

def escapedBytes? : List Char → Option (List UInt8 × List Char)
  | '%' :: a :: b :: rest => do
    let byte ← ofRadix? 16 [a, b]
    let count ← announcedBytes? byte
    let (bytes, rest) ← continuationBytes (count - 1) rest
    some (UInt8.ofNat byte :: bytes, rest)
  | _ => none

/-- The characters of tags; commas and brackets are among them in angle brackets and
directives. -/
def isTagChar (verbatim : Bool) (c : Char) : Bool :=
  isWordChar c || ";/?:@&=+$.%!~*'()".contains c || (verbatim && ",[]".contains c)

def tagBytes (verbatim : Bool) : Nat → List Char → Option (List UInt8 × List Char)
  | 0, rest => some ([], rest)
  | _ + 1, [] => some ([], [])
  | n + 1, c :: rest =>
    if isTagChar verbatim c then do
      let (bytes, rest) ←
        if c = '%' then escapedBytes? (c :: rest) else some (String.utf8EncodeChar c, rest)
      let (more, rest) ← tagBytes verbatim n rest
      some (bytes ++ more, rest)
    else some ([], c :: rest)

def tagHandle? : List Char → Option (List Char × List Char)
  | '!' :: rest =>
    let word := rest.takeWhile isWordChar
    match rest.dropWhile isWordChar with
    | '!' :: after => some ('!' :: word ++ ['!'], after)
    | after => some ('!' :: word, after)
  | _ => none

def utf8 (text : List Char) : List UInt8 :=
  text.flatMap String.utf8EncodeChar

/-- Reads a tag. -/
def tagToken? (text : List Char) : Option (Token × List Char) :=
  match text with
  | '!' :: '<' :: rest => do
    let (bytes, rest) ← tagBytes true rest.length rest
    match rest with
    | '>' :: rest => if bytes.isEmpty then none else some (.tag [] bytes, rest)
    | _ => none
  | _ => do
    let (handle, rest) ← tagHandle? text
    let (bytes, rest) ← tagBytes false rest.length rest
    if 1 < handle.length && handle.getLast? = some '!' then
      if bytes.isEmpty then none else some (.tag (utf8 handle) bytes, rest)
    else
      let suffix := utf8 handle.tail ++ bytes
      if suffix.isEmpty then some (.tag [] (utf8 ['!']), rest)
      else some (.tag (utf8 ['!']) suffix, rest)

def tagMark (s : Scan) : Except Fault Scan := do
  let s ← s.saveKey
  match tagToken? s.here.rest with
  | none => .error .malformedTag
  | some (t, rest) =>
    if blankAhead rest || (s.inFlow && rest.head? = some ',') then
      .ok ({ s with keyAllowed := false }.take (s.here.rest.length - rest.length) t)
    else .error .malformedTag

def versionDigits : Nat := 9

def versionNumber? (text : List Char) : Option (Nat × List Char) :=
  let digits := text.takeWhile Char.isDigit
  if digits.isEmpty || versionDigits < digits.length then none
  else some (ofDigits digits, text.dropWhile Char.isDigit)

/-- Reads what follows the name of a directive. -/
def directiveToken? (name : String) (text : List Char) : Option (Token × List Char) := do
  let text := text.dropWhile isSpaceOrTab
  if name = "YAML" then
    let (major, rest) ← versionNumber? text
    match rest with
    | '.' :: rest =>
      let (minor, rest) ← versionNumber? rest
      some (.versionDirective major minor, rest)
    | _ => none
  else if name = "TAG" then
    let (handle, rest) ← tagHandle? text
    if 1 < handle.length && handle.getLast? ≠ some '!' then none
    else if !rest.head?.any isSpaceOrTab then none
    else
      let rest := rest.dropWhile isSpaceOrTab
      let (bytes, rest) ← tagBytes true rest.length rest
      if bytes.isEmpty || !blankAhead rest then none
      else some (.tagDirective (utf8 handle) bytes, rest)
  else none

def directive (s : Scan) : Except Fault Scan := do
  let s ← (s.unroll (-1)).dropKey
  let text := s.here.rest.tail
  let name := text.takeWhile isWordChar
  let rest := text.dropWhile isWordChar
  if name.isEmpty || !blankAhead rest then .error .malformedDirective
  else
    match directiveToken? (String.ofList name) rest with
    | none => .error .malformedDirective
    | some (t, rest) =>
      let s := { s with keyAllowed := false }.take (s.here.rest.length - rest.length) t
      let here := (s.here.advanceWhile isSpaceOrTab).skipComment
      if breakAhead here.rest then .ok { s with here := here.skipBreak }
      else .error .malformedDirective

def blockScalar (s : Scan) (folded : Bool) : Except Fault Scan := do
  let s ← s.dropKey
  let scanned ← scanBlock folded s.indent s.here
  .ok ({ s with here := scanned.next, keyAllowed := true }.push
    (.scalar (String.ofList scanned.text) false))

def quotedScalar (s : Scan) (single : Bool) : Except Fault Scan := do
  let s ← s.saveKey
  let scanned ← scanQuoted single s.here
  .ok ({ s with here := scanned.next, keyAllowed := false }.push
    (.scalar (String.ofList scanned.text) false))

def plainScalar (s : Scan) : Except Fault Scan := do
  let s ← s.saveKey
  let scanned ← scanPlain s.inFlow s.indent s.here
  .ok ({ s with here := scanned.next, keyAllowed := scanned.lineEnded }.push
    (.scalar (String.ofList scanned.text) true))

def finish (s : Scan) : Except Fault Scan :=
  (s.unroll (-1)).dropKey

def startsPlain (s : Scan) (c : Char) (rest : List Char) : Bool :=
  !(blankAhead [c] || "-?:,[]\x7b\x7d#&*!|>'\"%@\x60".contains c) ||
    (c = '-' && !rest.head?.any isSpaceOrTab) ||
    (!s.inFlow && (c = '?' || c = ':') && !blankAhead rest)

/-- Takes the token that starts here. -/
def next (s : Scan) (c : Char) (rest : List Char) : Except Fault Scan :=
  if s.here.column = 0 && c = '%' then s.directive
  else if s.here.atMarks '-' then s.documentMark .documentStart
  else if s.here.atMarks '.' then s.documentMark .documentEnd
  else if c = '[' then s.flowStart .flowSequenceStart
  else if c = '\x7b' then s.flowStart .flowMappingStart
  else if c = ']' then s.flowEnd .flowSequenceEnd
  else if c = '\x7d' then s.flowEnd .flowMappingEnd
  else if c = ',' then s.flowEntry
  else if c = '-' && blankAhead rest then s.blockEntry
  else if c = '?' && (s.inFlow || blankAhead rest) then s.keyMark
  else if c = ':' && (s.inFlow || blankAhead rest) then s.valueMark
  else if c = '*' then s.anchor .alias
  else if c = '&' then s.anchor .anchor
  else if c = '!' then s.tagMark
  else if c = '|' && !s.inFlow then s.blockScalar false
  else if c = '>' && !s.inFlow then s.blockScalar true
  else if c = '\'' then s.quotedScalar true
  else if c = '"' then s.quotedScalar false
  else if s.startsPlain c rest then s.plainScalar
  else .error .unexpectedCharacter

def run : Nat → Scan → Except Fault Scan
  | 0, _ => .error .unexpectedCharacter
  | n + 1, s => do
    let s := s.skipBlanks (s.here.rest.length + 1)
    let keys ← dropStale s.here s.keys
    let s := { s with keys := keys }.unroll s.here.column
    match s.here.rest with
    | [] => s.finish
    | c :: rest => do
      let s ← s.next c rest
      run n s

end Scan

def isAllowed (c : Char) : Bool :=
  let n := c.toNat
  c = '\t' || c = '\n' || c = '\r' || (0x20 ≤ n && n ≤ 0x7E) || n = 0x85 ||
    (0xA0 ≤ n && n ≤ 0xFFFD) || 0x10000 ≤ n

def tokens (text : String) : Except Fault (List Token) := do
  let chars := text.toList
  if chars.all isAllowed then
    let s ← (Scan.start chars).run (chars.length + 1)
    .ok s.tokens.toList
  else .error .controlCharacter

end LintEngine.Yaml
