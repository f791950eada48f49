import LintEngine.Shell.Regex

namespace LintEngine.Shell.Awk

open Number

inductive Token where
  | newline
  | number (digits : Bytes)
  | text (bytes : Bytes)
  | regex (bytes : Bytes)
  | name (n : String)
  | call (n : String)
  | builtin (n : String)
  | keyword (n : String)
  | symbol (s : String)
deriving DecidableEq

namespace Token

def keywords : List String :=
  ["BEGIN", "END", "function", "if", "else", "while", "for", "do", "break", "continue", "delete",
    "in", "exit", "return", "next", "nextfile", "getline", "print", "printf"]

def builtins : List String :=
  ["length", "index", "substr", "sprintf", "split", "match", "sub", "gsub", "int", "sqrt", "exp",
    "log", "sin", "cos", "atan2", "rand", "srand", "toupper", "tolower", "system", "close",
    "fflush", "systime", "mktime", "strftime"]

def symbols : List String :=
  ["&&", "||", "++", "--", "+=", "-=", "*=", "/=", "%=", "^=", "==", "<=", ">=", "!=", "!~", ">>",
    "\x7b", "\x7d", "(", ")", "[", "]", ";", ",", "+", "-", "*", "/", "%", "^", "!", ">", "<", "|",
    "?", ":", "~", "$", "="]

def unescaped : Nat → Bytes → Bytes
  | 0, bytes => bytes
  | _ + 1, [] => []
  | n + 1, '\\' :: c :: rest =>
    if c = '\n' then unescaped n rest
    else if c = '"' then '"' :: unescaped n rest
    else if isOctal c then
      let (value, rest) := takeOctal 3 (c :: rest)
      byteChar value :: unescaped n rest
    else
      match (if c = 'x' then Regex.numbered? 16 2 rest else none) with
      | some (x, rest) => x :: unescaped n rest
      | none =>
        match controlChar? c with
        | some x => x :: unescaped n rest
        | none => '\\' :: c :: unescaped n rest
  | n + 1, c :: rest => c :: unescaped n rest

def unescape (bytes : Bytes) : Bytes := unescaped (bytes.length + 1) bytes

def takeString : Bytes → Option (Bytes × Bytes)
  | [] => none
  | '"' :: rest => some ([], rest)
  | '\n' :: _ => none
  | '\\' :: c :: rest => (takeString rest).map fun (found, rest) => ('\\' :: c :: found, rest)
  | c :: rest => (takeString rest).map fun (found, rest) => (c :: found, rest)

/-- The text of an expression up to the slash after it, and what follows the slash; a slash in
brackets does not end it. -/
def takeRegex (inSet : Bool) : Bytes → Option (Bytes × Bytes)
  | [] => none
  | '\n' :: _ => none
  | '/' :: rest =>
    if inSet then (takeRegex true rest).map fun (found, rest) => ('/' :: found, rest)
    else some ([], rest)
  | '\\' :: '/' :: rest => (takeRegex inSet rest).map fun (found, rest) => ('/' :: found, rest)
  | '\\' :: c :: rest => (takeRegex inSet rest).map fun (found, rest) => ('\\' :: c :: found, rest)
  | '[' :: '^' :: ']' :: rest =>
    (takeRegex true rest).map fun (found, rest) => ('[' :: '^' :: ']' :: found, rest)
  | '[' :: ']' :: rest => (takeRegex true rest).map fun (found, rest) => ('[' :: ']' :: found, rest)
  | c :: rest =>
    let inSet := if c = '[' then true else if c = ']' then false else inSet
    (takeRegex inSet rest).map fun (found, rest) => (c :: found, rest)

def takeNumber (text : Bytes) : Bytes × Bytes :=
  let whole := text.takeWhile Char.isDigit
  let rest := text.drop whole.length
  let fraction := match rest with
    | '.' :: more => '.' :: more.takeWhile Char.isDigit
    | _ => []
  let rest := rest.drop fraction.length
  let exponent := match rest with
    | mark :: sign :: more =>
      if mark = 'e' || mark = 'E' then
        let (signed, digits) :=
          if sign = '+' || sign = '-' then ([sign], more) else ([], sign :: more)
        let found := digits.takeWhile Char.isDigit
        if found.isEmpty then [] else mark :: signed ++ found
      else []
    | _ => []
  (whole ++ fraction ++ exponent, rest.drop exponent.length)

def endsOperand : Option Token → Bool
  | some (number _) | some (text _) | some (regex _) | some (name _) | some (builtin _) => true
  | some (symbol s) => [")", "]", "$", "++", "--"].contains s
  | _ => false

def ofWord (word : String) (next : Option Char) : Token :=
  if keywords.contains word then keyword word
  else if builtins.contains word then builtin word
  else if next = some '(' then call word
  else name word

def readAll : Nat → (before : Option Token) → Bytes → Option (List Token)
  | 0, _, _ => some []
  | _ + 1, _, [] => some []
  | n + 1, before, c :: rest =>
    let go (t : Token) (rest : Bytes) := (readAll n (some t) rest).map (t :: ·)
    if c = ' ' || c = '\t' || c = '\r' || c = '\x0c' then readAll n before rest
    else if c = '\n' then go .newline rest
    else if c = '#' then readAll n before (rest.dropWhile (· ≠ '\n'))
    else if c = '\\' then
      match rest with
      | '\n' :: rest => readAll n before rest
      | '\r' :: '\n' :: rest => readAll n before rest
      | _ => none
    else if c = '"' then
      (takeString rest).bind fun (raw, rest) => go (.text (unescape raw)) rest
    else if c.isDigit || (c = '.' && rest.head?.any Char.isDigit) then
      let (digits, rest) := takeNumber (c :: rest)
      go (.number digits) rest
    else if isNameStart c then
      let word := (c :: rest).takeWhile isNameChar
      let rest := (c :: rest).drop word.length
      go (ofWord (String.ofList word) rest.head?) rest
    else if c = '/' && !(endsOperand before) then
      (takeRegex false rest).bind fun (source, rest) => go (.regex source) rest
    else
      match symbols.findSome? fun s =>
          (stripLead? s.toList (c :: rest)).map fun rest => (s, rest) with
      | some (s, rest) => go (.symbol s) rest
      | none => none

def ofText (text : Bytes) : Option (List Token) :=
  readAll (text.length + 1) none text

end Token

end LintEngine.Shell.Awk
