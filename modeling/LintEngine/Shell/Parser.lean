import LintEngine.Shell.Syntax

namespace LintEngine.Shell

structure Announced where
  number : Nat
  delimiter : Bytes
  quoted : Bool
  tabsDropped : Bool

/-- The text that is left, the line it is in, the documents that are announced and those that have
been read, and the number of documents so far. -/
structure Source where
  rest : Bytes
  line : Nat
  announced : List Announced
  documents : List (Nat × Word)
  count : Nat

abbrev Reader := StateT Source Option

namespace Reader

def rest : Reader Bytes := do return (← get).rest

def setRest (rest : Bytes) : Reader Unit := modify fun s => { s with rest := rest }

def skip (n : Nat) : Reader Unit := modify fun s =>
  { s with rest := s.rest.drop n, line := s.line + (s.rest.take n).count '\n' }

def at? (text : String) : Reader Bool := do
  return (stripLead? text.toList (← rest)).isSome

def accept (text : String) : Reader Bool := do
  if ← at? text then
    skip text.length
    return true
  else return false

def expect (text : String) : Reader Unit := do
  guard (← accept text)

def endsWord (c : Char) : Bool :=
  c = ' ' || c = '\t' || c = '\n' || ";&|<>()".contains c

def isSpecialParameter (c : Char) : Bool :=
  "@*#?-$!".contains c || c.isDigit

/-- The text up to a backquote that has no backslash before it, where backslashes keep backquotes,
backslashes and dollar signs, and double quotes inside of double quotes. -/
def untilBackquote (quoted : Bool) : Bytes → Option (Bytes × Bytes)
  | [] => none
  | '\x60' :: rest => some ([], rest)
  | '\\' :: c :: rest =>
    let kept := if c = '\x60' || c = '\\' || c = '$' || (quoted && c = '"') then [c]
      else if c = '\n' then [] else ['\\', c]
    (untilBackquote quoted rest).map fun (text, after) => (kept ++ text, after)
  | c :: rest => (untilBackquote quoted rest).map fun (text, after) => (c :: text, after)

/-- Where a word is read: outside of quotes, in double quotes, in braces outside or inside of
double quotes, in an arithmetic expression, or in a document. -/
inductive Setting where
  | word
  | doubleQuotes
  | braces
  | quotedBraces
  | arithmetic
  | document
deriving DecidableEq

def Setting.escapes (setting : Setting) (c : Char) : Bool :=
  match setting with
  | .word | .braces => true
  | .doubleQuotes => "$\x60\"\\".contains c
  | .quotedBraces => "$\x60\"\\\x7d".contains c
  | .arithmetic => "$\x60\"\\".contains c
  | .document => "$\x60\\".contains c

def Setting.isQuoted : Setting → Bool
  | .word | .braces => false
  | _ => true

def skipBlanks : Nat → Reader Unit
  | 0 => pure ()
  | n + 1 => do
    match ← rest with
    | ' ' :: _ | '\t' :: _ => skip 1; skipBlanks n
    | '\\' :: '\n' :: _ => skip 2; skipBlanks n
    | '#' :: text => skip ((text.takeWhile (· ≠ '\n')).length + 1); skipBlanks n
    | _ => pure ()

def blanks : Reader Unit := do
  skipBlanks ((← rest).length + 1)

def closingKeywords : List String :=
  ["\x7d", "then", "elif", "else", "fi", "do", "done", "esac"]

def keywords : List String :=
  closingKeywords ++ ["\x7b", "!", "if", "while", "until", "for", "case"]

def keyword? : Reader (Option String) := do
  blanks
  let text ← rest
  let word := text.takeWhile fun c => !endsWord c
  let name := String.ofList word
  return if keywords.contains name then some name else none

def atKeyword (name : String) : Reader Bool := do
  return (← keyword?) = some name

def expectKeyword (name : String) : Reader Unit := do
  guard (← atKeyword name)
  skip name.length

def documentLine (tabsDropped : Bool) : Reader (Option Bytes) := do
  let text ← rest
  if text.isEmpty then return none
  else
    let (line, _) := takeLine text
    skip line.length
    return some (if tabsDropped then line.dropWhile (· = '\t') else line)

def documentLines (d : Announced) : Nat → Reader Bytes
  | 0 => return []
  | n + 1 => do
    match ← documentLine d.tabsDropped with
    | none => return []
    | some line =>
      if dropFinalFeeds line = d.delimiter then return []
      else return line ++ (← documentLines d n)

def delimiterOf (w : Word) : Bytes × Bool :=
  (w.flatMap fun
    | .text bytes _ => bytes
    | _ => [],
   w.any fun
    | .text _ quoted => quoted
    | _ => false)

mutual
/-- Reads the parts of a word up to its end. The number bounds them. -/
def parts (setting : Setting) : Nat → Reader Word
  | 0 => failure
  | n + 1 => do
    match ← rest with
    | [] => if setting = .word || setting = .document then return [] else failure
    | c :: text =>
      if setting = .word && endsWord c then return []
      else if (setting = .braces || setting = .quotedBraces) && c = '\x7d' then return []
      else if setting = .doubleQuotes && c = '"' then return []
      else if setting = .arithmetic && c = ')' then return []
      else if c = '\\' then
        match text with
        | '\n' :: _ => skip 2; parts setting n
        | d :: _ =>
          if setting.escapes d then
            skip 2
            return .text [d] true :: (← parts setting n)
          else
            skip 1
            return .text ['\\'] setting.isQuoted :: (← parts setting n)
        | [] =>
          skip 1
          return .text ['\\'] true :: (← parts setting n)
      else if c = '\'' && (setting = .word || setting = .braces) then
        match text.dropWhile (· ≠ '\'') with
        | [] => failure
        | _ :: _ =>
          let inside := text.takeWhile (· ≠ '\'')
          skip (inside.length + 2)
          return .text inside true :: (← parts setting n)
      else if c = '"' && setting ≠ .document && setting ≠ .arithmetic then
        if setting = .quotedBraces then
          skip 1
          return (← parts setting n)
        else
          skip 1
          let inside ← parts .doubleQuotes n
          expect "\""
          let after ← parts setting n
          return (if inside.isEmpty then [.text [] true] else inside) ++ after
      else if c = '$' then
        skip 1
        let part ← expansion setting n
        return part :: (← parts setting n)
      else if c = '\x60' then
        match untilBackquote setting.isQuoted text with
        | none => failure
        | some (inside, after) =>
          let script ← inner n inside
          setRest after
          return .command script setting.isQuoted :: (← parts setting n)
      else if setting = .arithmetic && c = '(' then
        skip 1
        let inside ← parts .arithmetic n
        expect ")"
        return .text ['('] true :: inside ++ .text [')'] true :: (← parts setting n)
      else
        skip 1
        return .text [c] setting.isQuoted :: (← parts setting n)
/-- Reads an arithmetic expression up to two closing parentheses; one alone is part of it. -/
def arithmeticParts : Nat → Reader Word
  | 0 => failure
  | n + 1 => do
    let inside ← parts .arithmetic n
    if ← accept "))" then return inside
    else
      expect ")"
      return inside ++ .text [')'] true :: (← arithmeticParts n)
/-- Reads a script that stands in a text of its own. -/
def inner : Nat → Bytes → Reader (List Command)
  | 0, _ => failure
  | n + 1, text => do
    let outer ← get
    set { outer with rest := text, announced := [] }
    let script ← lines n
    let after ← get
    guard after.rest.isEmpty
    set { outer with documents := after.documents, count := after.count }
    return script
/-- Reads an expansion after its dollar sign. -/
def expansion (setting : Setting) : Nat → Reader WordPart
  | 0 => failure
  | n + 1 => do
    let quoted := setting.isQuoted
    match ← rest with
    | '(' :: '(' :: _ =>
      skip 2
      return .arithmetic (← arithmeticParts n) quoted
    | '(' :: _ =>
      skip 1
      let script ← lines n
      expect ")"
      return .command script quoted
    | '\x7b' :: _ =>
      skip 1
      braced (if quoted then .quotedBraces else .braces) quoted n
    | c :: text =>
      if isSpecialParameter c then
        skip 1
        return .parameter [c] .value quoted
      else if isNameStart c then
        let name := (c :: text).takeWhile isNameChar
        skip name.length
        return .parameter name .value quoted
      else return .text ['$'] quoted
    | [] => return .text ['$'] quoted
/-- Reads a parameter in braces after the opening one. -/
def braced (setting : Setting) (quoted : Bool) : Nat → Reader WordPart
  | 0 => failure
  | n + 1 => do
    let text ← rest
    let name := parameterName text
    match text with
    | '#' :: '\x7d' :: _ =>
      skip 2
      return .parameter ['#'] .value quoted
    | '#' :: more =>
      let named := parameterName more
      if !named.isEmpty && (more.drop named.length).head? = some '\x7d' then
        skip (named.length + 2)
        return .parameter named .length quoted
      else operated setting quoted n name
    | _ => operated setting quoted n name
/-- Reads what is done with a named parameter, up to the closing brace. -/
def operated (setting : Setting) (quoted : Bool) : Nat → Bytes → Reader WordPart
  | 0, _ => failure
  | n + 1, name => do
    if name.isEmpty then
      let _ ← parts setting n
      expect "\x7d"
      return .parameter name .invalid quoted
    else
      skip name.length
      if ← accept "\x7d" then return .parameter name .value quoted
      else
        let emptyIsMissing ← accept ":"
        let test : Option ValueTest ← (do
          if ← accept "-" then return some .default
          else if ← accept "=" then return some .assign
          else if ← accept "?" then return some .require
          else if ← accept "+" then return some .replace
          else return none)
        match test with
        | some t =>
          let word ← parts setting n
          expect "\x7d"
          return .parameter name (.test t emptyIsMissing word) quoted
        | none =>
          let sign : Option (Bool × Bool) ← (do
            if emptyIsMissing then return none
            else if ← accept "##" then return some (false, true)
            else if ← accept "#" then return some (false, false)
            else if ← accept "%%" then return some (true, true)
            else if ← accept "%" then return some (true, false)
            else return none)
          match sign with
          | some (atEnd, longest) =>
            let pattern ← parts .braces n
            expect "\x7d"
            return .parameter name (.cut atEnd longest pattern) quoted
          | none =>
            let _ ← parts setting n
            expect "\x7d"
            return .parameter name .invalid quoted
/-- Reads a word. -/
def word : Nat → Reader Word
  | 0 => failure
  | n + 1 => do
    blanks
    match ← rest with
    | [] => failure
    | c :: _ =>
      guard (!endsWord c)
      parts .word n
/-- Reads a redirection, if one stands next. -/
def redirection? : Nat → Reader (Option Redirection)
  | 0 => failure
  | n + 1 => do
    blanks
    let text ← rest
    let (descriptor, signs) := match text with
      | c :: rest =>
        if c.isDigit && (rest.head? = some '<' || rest.head? = some '>') then
          (some (c.toNat - '0'.toNat), rest)
        else (none, text)
      | [] => (none, text)
    if signs.head? ≠ some '<' && signs.head? ≠ some '>' then return none
    else
      skip (text.length - signs.length)
      if ← accept "<<" then
        let tabsDropped ← accept "-"
        let w ← word n
        let (delimiter, quoted) := delimiterOf w
        let s ← get
        set { s with
          announced := s.announced ++ [Announced.mk s.count delimiter quoted tabsDropped]
          count := s.count + 1 }
        return some (.redirection (descriptor.getD 0) .document [] s.count)
      else
        let (kind, standard) : RedirectionKind × Nat ← (do
          if ← accept ">>" then return (.append, 1)
          else if ← accept ">&" then return (.duplicate, 1)
          else if ← accept ">|" then return (.overwrite, 1)
          else if ← accept "<>" then return (.both, 0)
          else if ← accept "<&" then return (.duplicate, 0)
          else if ← accept ">" then return (.output, 1)
          else
            expect "<"
            return (.input, 0))
        let w ← word n
        return some (.redirection (descriptor.getD standard) kind w 0)
/-- Reads redirections. -/
def redirections : Nat → Reader (List Redirection)
  | 0 => failure
  | n + 1 => do
    match ← redirection? n with
    | some r => return r :: (← redirections n)
    | none => return []
/-- Reads the words and redirections of a simple command. -/
def simpleParts : Nat → Reader (List Word × List Redirection)
  | 0 => failure
  | n + 1 => do
    match ← redirection? n with
    | some r =>
      let (words, redirections) ← simpleParts n
      return (words, r :: redirections)
    | none =>
      match ← rest with
      | [] => return ([], [])
      | c :: _ =>
        if endsWord c then return ([], [])
        else
          let w ← parts .word n
          let (words, redirections) ← simpleParts n
          return (w :: words, redirections)
/-- Ends a line and reads the documents that it has announced. -/
def newline : Nat → Reader Unit
  | 0 => failure
  | n + 1 => do
    expect "\n"
    documents n
/-- Reads the documents that are announced. -/
def documents : Nat → Reader Unit
  | 0 => failure
  | n + 1 => do
    match (← get).announced with
    | [] => pure ()
    | d :: more =>
      modify fun s => { s with announced := more }
      let text ← documentLines d ((← rest).length + 1)
      let w ← if d.quoted then pure [WordPart.text text true] else documentWord n text
      modify fun s => { s with documents := (d.number, w) :: s.documents }
      documents n
/-- Reads the expansions of a document. -/
def documentWord : Nat → Bytes → Reader Word
  | 0, _ => failure
  | n + 1, text => do
    let outer ← get
    set { outer with rest := text, announced := [] }
    let w ← parts .document n
    let after ← get
    set { outer with documents := after.documents, count := after.count }
    return w
/-- Passes over blanks and line ends. -/
def newlines : Nat → Reader Unit
  | 0 => failure
  | n + 1 => do
    blanks
    if ← at? "\n" then
      newline n
      newlines n
    else pure ()
/-- Reads lines of commands up to the end of the text or something that closes them. -/
def lines : Nat → Reader (List Command)
  | 0 => failure
  | n + 1 => do
    newlines n
    if (← rest).isEmpty || (← at? ")") then
      documents n
      return []
    else
      let c ← list n
      return c :: (← lines n)
/-- Whether a list of commands is over. -/
def listEnds : Nat → Reader Bool
  | 0 => failure
  | _ + 1 => do
    blanks
    if (← rest).isEmpty || (← at? ")") || (← at? ";;") then return true
    else return (← keyword?).any closingKeywords.contains
/-- Reads commands up to the end of a line. -/
def list : Nat → Reader Command
  | 0 => failure
  | n + 1 => do
    let first ← andOr n
    blanks
    if ← at? ";;" then return first
    else if ← accept ";" then
      blanks
      if (← at? "\n") || (← listEnds n) then return first
      else return .sequence first (← list n)
    else if (← at? "&") && !(← at? "&&") then
      skip 1
      blanks
      if (← at? "\n") || (← listEnds n) then return .background first
      else return .sequence (.background first) (← list n)
    else
      guard ((← at? "\n") || (← listEnds n))
      return first
/-- Reads commands over several lines, up to something that closes them. -/
def block : Nat → Reader Command
  | 0 => failure
  | n + 1 => do
    newlines n
    guard !(← listEnds n)
    let first ← list n
    newlines n
    if ← listEnds n then return first
    else return .sequence first (← block n)
/-- Reads pipelines joined by conditions. -/
def andOr : Nat → Reader Command
  | 0 => failure
  | n + 1 => do
    let first ← pipeline n
    andOrFrom n first
/-- Goes on after a pipeline. -/
def andOrFrom : Nat → Command → Reader Command
  | 0, _ => failure
  | n + 1, first => do
    blanks
    if ← accept "&&" then
      newlines n
      let second ← pipeline n
      andOrFrom n (.both first second)
    else if ← accept "||" then
      newlines n
      let second ← pipeline n
      andOrFrom n (.either first second)
    else return first
/-- Reads commands joined by pipes. -/
def pipeline : Nat → Reader Command
  | 0 => failure
  | n + 1 => do
    if ← atKeyword "!" then
      skip 1
      let first ← command n
      return .negation (← pipelineFrom n first)
    else
      let first ← command n
      pipelineFrom n first
/-- Goes on after a command. -/
def pipelineFrom : Nat → Command → Reader Command
  | 0, _ => failure
  | n + 1, first => do
    blanks
    if (← at? "|") && !(← at? "||") then
      skip 1
      newlines n
      let second ← command n
      pipelineFrom n (.pipe first second)
    else return first
/-- Reads a command. -/
def command : Nat → Reader Command
  | 0 => failure
  | n + 1 => do
    blanks
    if ← at? "(" then
      skip 1
      let body ← block n
      newlines n
      expect ")"
      withRedirections n (.subshell body)
    else
      match ← keyword? with
      | some "\x7b" =>
        skip 1
        let body ← block n
        expectKeyword "\x7d"
        withRedirections n body
      | some "if" =>
        skip 2
        let c ← conditional n
        withRedirections n c
      | some "while" =>
        skip 5
        let condition ← block n
        let body ← loopBody n
        withRedirections n (.loop false condition body)
      | some "until" =>
        skip 5
        let condition ← block n
        let body ← loopBody n
        withRedirections n (.loop true condition body)
      | some "for" =>
        skip 3
        let c ← forLoop n
        withRedirections n c
      | some "case" =>
        skip 4
        let c ← choice n
        withRedirections n c
      | some _ => failure
      | none =>
        let line := (← get).line
        let (words, redirections) ← simpleParts n
        match words, redirections with
        | [], [] => failure
        | [w], [] =>
          if ← at? "(" then
            skip 1
            blanks
            expect ")"
            newlines n
            let name ← (plainWord? w : Option Bytes)
            guard (isName name)
            return .definition name (← command n)
          else return .simple line words redirections
        | words, redirections => return .simple line words redirections
/-- Reads the redirections of a compound command. -/
def withRedirections : Nat → Command → Reader Command
  | 0, _ => failure
  | n + 1, c => do
    let rs ← redirections n
    return if rs.isEmpty then c else .redirected c rs
/-- Reads a condition with what depends on it, after its first word. -/
def conditional : Nat → Reader Command
  | 0 => failure
  | n + 1 => do
    let condition ← block n
    expectKeyword "then"
    let body ← block n
    if ← atKeyword "elif" then
      skip 4
      return .conditional condition body (← conditional n)
    else if ← atKeyword "else" then
      skip 4
      let otherwise ← block n
      expectKeyword "fi"
      return .conditional condition body otherwise
    else
      expectKeyword "fi"
      return .conditional condition body .nothing
/-- Reads the body of a loop. -/
def loopBody : Nat → Reader Command
  | 0 => failure
  | n + 1 => do
    expectKeyword "do"
    let body ← block n
    expectKeyword "done"
    return body
/-- Reads a loop over words after its first word. -/
def forLoop : Nat → Reader Command
  | 0 => failure
  | n + 1 => do
    blanks
    let text ← rest
    let name := text.takeWhile isNameChar
    guard (isName name)
    skip name.length
    guard (((← rest).head?).all endsWord)
    newlines n
    let text ← rest
    if text.take 2 = ['i', 'n'] && (text.drop 2).head?.all endsWord then
      skip 2
      let words ← plainWords n
      blanks
      if ← accept ";" then newlines n else newline n
      newlines n
      let body ← loopBody n
      return .forEach name (some words) body
    else
      let _ ← accept ";"
      newlines n
      let body ← loopBody n
      return .forEach name none body
/-- Reads words up to the end of a line. -/
def plainWords : Nat → Reader (List Word)
  | 0 => failure
  | n + 1 => do
    blanks
    match ← rest with
    | [] => return []
    | c :: _ =>
      if endsWord c then return []
      else
        let w ← parts .word n
        return w :: (← plainWords n)
/-- Reads a choice after its first word. -/
def choice : Nat → Reader Command
  | 0 => failure
  | n + 1 => do
    let w ← word n
    newlines n
    let text ← rest
    guard (text.take 2 = ['i', 'n'] && (text.drop 2).head?.all endsWord)
    skip 2
    let found ← branches n
    return .choice w found
/-- Reads the branches of a choice and its last word. -/
def branches : Nat → Reader (List Branch)
  | 0 => failure
  | n + 1 => do
    newlines n
    if ← atKeyword "esac" then
      skip 4
      return []
    else
      let _ ← accept "("
      let patterns ← patternList n
      expect ")"
      newlines n
      let body ← if (← at? ";;") || (← atKeyword "esac") then pure Command.nothing else block n
      newlines n
      if ← accept ";;" then return .branch patterns body :: (← branches n)
      else
        expectKeyword "esac"
        return [.branch patterns body]
def patternList : Nat → Reader (List Word)
  | 0 => failure
  | n + 1 => do
    let w ← word n
    blanks
    if ← accept "|" then return w :: (← patternList n) else return [w]
def parameterName (text : Bytes) : Bytes :=
  match text with
  | [] => []
  | c :: _ =>
    if isNameStart c then text.takeWhile isNameChar
    else if c.isDigit then text.takeWhile Char.isDigit
    else if isSpecialParameter c then [c]
    else []
end

def wholeLine (bound : Nat) : Reader Command := do
  let c ← list bound
  if (← rest).isEmpty then documents bound else newline bound
  return c

end Reader

structure ScriptLine where
  command : Command
  documents : List (Nat × Word)
  rest : Source

inductive NextLine where
  | nothing
  | malformed
  | line (l : ScriptLine)

def Source.next (s : Source) : NextLine :=
  let bound := 8 * s.rest.length + 32
  match (Reader.newlines bound).run s with
  | none => .malformed
  | some (_, s) =>
    if s.rest.isEmpty then .nothing
    else
      match (Reader.wholeLine bound).run s with
      | none => .malformed
      | some (c, s) => .line ⟨c, s.documents, { s with documents := [] }⟩

def Source.ofText (text : Bytes) (count : Nat) : Source :=
  ⟨text, 1, [], [], count⟩

end LintEngine.Shell
