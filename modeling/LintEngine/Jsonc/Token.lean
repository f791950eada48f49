import LintEngine.Number.Decimal
import LintEngine.Text.Blank
import LintEngine.Text.Letter

namespace LintEngine.Jsonc

open Text

/-- A token; strings are held without quotes and escapes, words and numbers as written. -/
inductive Token where
  | openBrace
  | closeBrace
  | openBracket
  | closeBracket
  | comma
  | colon
  | null
  | boolean (b : Bool)
  | string (text : String)
  | word (text : String)
  | number (text : String)
deriving DecidableEq, Repr

/-- What can be wrong with a text. -/
inductive Problem where
  | unexpectedToken
  | unexpectedWord
  | unexpectedComma
  | unexpectedColon
  | unexpectedCloseBrace
  | unexpectedCloseBracket
  | unexpectedTokenInObject
  | expectedColon
  | expectedValue
  | unterminatedObject
  | unterminatedArray
  | unterminatedComment
  | unterminatedString
  | severalValues
  | expectedDigit
  | expectedDigitAfterSign
  | expectedExponent
  | invalidEscape
  | invalidEscapeInSingleQuotes
  | invalidEscapeInDoubleQuotes
  | expectedFourHexDigits
  | unpairedHighSurrogate (digits : String)
  | highSurrogateWithoutLow (digits : String)
  | unpairedLowSurrogate (digits : String)
deriving DecidableEq, Repr

def Problem.noCharacter (digits reason : String) : String :=
  "Invalid unicode escape sequence. '" ++ digits ++ " (" ++ reason ++
    ")' is not a valid UTF8 character"

/-- The wording of a problem. -/
def Problem.message : Problem → String
  | unexpectedToken => "Unexpected token"
  | unexpectedWord => "Unexpected word"
  | unexpectedComma => "Unexpected comma"
  | unexpectedColon => "Unexpected colon"
  | unexpectedCloseBrace => "Unexpected close brace"
  | unexpectedCloseBracket => "Unexpected close bracket"
  | unexpectedTokenInObject => "Unexpected token in object"
  | expectedColon => "Expected colon after the string or word in object property"
  | expectedValue => "Expected value after colon in object property"
  | unterminatedObject => "Unterminated object"
  | unterminatedArray => "Unterminated array"
  | unterminatedComment => "Unterminated comment block"
  | unterminatedString => "Unterminated string literal"
  | severalValues => "Text cannot contain more than one JSON value"
  | expectedDigit => "Expected digit"
  | expectedDigitAfterSign => "Expected digit following negative sign"
  | expectedExponent => "Expected plus, minus, or digit in number literal"
  | invalidEscape => "Invalid escape"
  | invalidEscapeInSingleQuotes => "Invalid escape in single quote string"
  | invalidEscapeInDoubleQuotes => "Invalid escape in double quote string"
  | expectedFourHexDigits => "Expected four hex digits"
  | unpairedHighSurrogate digits => noCharacter digits "unpaired high surrogate"
  | highSurrogateWithoutLow digits =>
    noCharacter digits "high surrogate not followed by low surrogate"
  | unpairedLowSurrogate digits => noCharacter digits "unpaired low surrogate"

structure Fault where
  problem : Problem
  rest : List Char
deriving DecidableEq, Repr

structure Lexeme where
  token : Token
  start : List Char
deriving DecidableEq, Repr

def simpleEscape? (c : Char) : Option Char :=
  if c = '"' || c = '\'' || c = '\\' || c = '/' then some c
  else if c = 'b' then some '\x08'
  else if c = 'f' then some '\x0c'
  else if c = 'n' then some '\n'
  else if c = 'r' then some '\r'
  else if c = 't' then some '\t'
  else none

def fourHexDigits? : List Char → Option (String × Nat × List Char)
  | a :: b :: c :: d :: rest => do
    let n ← Number.ofRadix? 16 [a, b, c, d]
    some (String.ofList [a, b, c, d], n, rest)
  | _ => none

def isHighSurrogate (n : Nat) : Bool := 0xD800 ≤ n && n ≤ 0xDBFF

def isLowSurrogate (n : Nat) : Bool := 0xDC00 ≤ n && n ≤ 0xDFFF

/-- The character of an escape by code, whose digits are at the head; `escape` is the text from
the backslash on. -/
def codeEscape (escape rest : List Char) : Except Fault (Char × List Char) :=
  match fourHexDigits? rest with
  | none => .error ⟨.expectedFourHexDigits, escape⟩
  | some (digits, n, rest) =>
    if isHighSurrogate n then
      match rest with
      | '\\' :: 'u' :: rest =>
        match fourHexDigits? rest with
        | none => .error ⟨.expectedFourHexDigits, escape⟩
        | some (_, low, rest) =>
          if isLowSurrogate low then
            .ok (Char.ofNat (0x10000 + (n - 0xD800) * 0x400 + (low - 0xDC00)), rest)
          else .error ⟨.highSurrogateWithoutLow digits, escape⟩
      | _ => .error ⟨.unpairedHighSurrogate digits, escape⟩
    else if isLowSurrogate n then .error ⟨.unpairedLowSurrogate digits, escape⟩
    else .ok (Char.ofNat n, rest)

def escapeSequence (quote : Char) (opening escape : List Char) :
    Except Fault (Char × List Char) :=
  match escape.drop 1 with
  | [] => .error ⟨.unterminatedString, opening⟩
  | c :: rest =>
    if c = 'u' then codeEscape escape rest
    else if c = '"' && quote ≠ '"' then .error ⟨.invalidEscapeInSingleQuotes, escape⟩
    else if c = '\'' && quote = '"' then .error ⟨.invalidEscapeInDoubleQuotes, escape⟩
    else
      match simpleEscape? c with
      | some d => .ok (d, rest)
      | none => .error ⟨.invalidEscape, escape⟩

/-- The rest of a string after its opening quote, with the reversed content so far. The number
bounds the characters left to read. -/
def stringBody (quote : Char) (opening : List Char) :
    Nat → List Char → List Char → Except Fault (String × List Char)
  | 0, _, _ => .error ⟨.unterminatedString, opening⟩
  | _, _, [] => .error ⟨.unterminatedString, opening⟩
  | n + 1, content, c :: rest =>
    if c = quote then .ok (String.ofList content.reverse, rest)
    else if c = '\\' then
      match escapeSequence quote opening (c :: rest) with
      | .error fault => .error fault
      | .ok (d, rest) => stringBody quote opening n (d :: content) rest
    else stringBody quote opening n (c :: content) rest

def requiredDigits (problem : Problem) (text : List Char) :
    Except Fault (List Char × List Char) :=
  match text with
  | c :: _ => if c.isDigit then .ok (text.takeWhile Char.isDigit, text.dropWhile Char.isDigit)
      else .error ⟨problem, text⟩
  | [] => .error ⟨problem, text⟩

def fraction (text : List Char) : Except Fault (List Char × List Char) :=
  match text with
  | '.' :: rest => (requiredDigits .expectedDigit rest).map fun (ds, rest) => ('.' :: ds, rest)
  | _ => .ok ([], text)

def exponent (text : List Char) : Except Fault (List Char × List Char) :=
  match text with
  | e :: rest =>
    if e = 'e' || e = 'E' then
      match rest with
      | s :: digits =>
        if s = '-' || s = '+' then
          (requiredDigits .expectedDigit digits).map fun (ds, rest) => (e :: s :: ds, rest)
        else (requiredDigits .expectedExponent rest).map fun (ds, rest) => (e :: ds, rest)
      | [] => .error ⟨.expectedExponent, rest⟩
    else .ok ([], text)
  | [] => .ok ([], text)

def numberTail (text : List Char) : Except Fault (List Char × List Char) := do
  let (f, rest) ← fraction text
  let (e, rest) ← exponent rest
  return (f ++ e, rest)

def isHexDigit (c : Char) : Bool := (Number.hexValue? c).isSome

/-- The digits of a number after its sign. -/
def numberBody (text : List Char) : Except Fault (List Char × List Char) :=
  match text with
  | [] => .error ⟨.expectedDigitAfterSign, text⟩
  | c :: rest =>
    if c = '0' then
      match rest with
      | x :: more =>
        if x = 'x' || x = 'X' then
          let digits := more.takeWhile isHexDigit
          if digits.isEmpty then .error ⟨.expectedDigit, more⟩
          else .ok (c :: x :: digits, more.dropWhile isHexDigit)
        else (numberTail rest).map fun (t, rest) => (c :: t, rest)
      | [] => .ok ([c], [])
    else if c.isDigit then
      (numberTail (text.dropWhile Char.isDigit)).map fun (t, rest) =>
        (text.takeWhile Char.isDigit ++ t, rest)
    else .error ⟨.expectedDigitAfterSign, text⟩

def number (text : List Char) : Except Fault (Token × List Char) :=
  let (sign, body) := match text with
    | '-' :: rest => (['-'], rest)
    | '+' :: rest => (['+'], rest)
    | rest => ([], rest)
  (numberBody body).map fun (digits, rest) => (.number (String.ofList (sign ++ digits)), rest)

def keyword? (name : String) (text : List Char) : Option (List Char) :=
  if name.toList.isPrefixOf text then
    let rest := text.drop name.length
    match rest with
    | c :: _ => if isLetterOrDigit c then none else some rest
    | [] => some rest
  else none

def endsWord (c : Char) : Bool := isBlank c || c = ':'

def bareWord (text : List Char) : Except Fault (Token × List Char) :=
  let content := text.takeWhile fun c => !endsWord c
  if content.isEmpty || !content.all (fun c => isLetterOrDigit c || c = '-' || c = '_') then
    .error ⟨.unexpectedToken, text⟩
  else .ok (.word (String.ofList content), text.dropWhile fun c => !endsWord c)

def wordOrKeyword (text : List Char) : Except Fault (Token × List Char) :=
  match keyword? "true" text with
  | some rest => .ok (.boolean true, rest)
  | none =>
    match keyword? "false" text with
    | some rest => .ok (.boolean false, rest)
    | none =>
      match keyword? "null" text with
      | some rest => .ok (.null, rest)
      | none => bareWord text

def token (text : List Char) : Except Fault (Token × List Char) :=
  match text with
  | [] => .error ⟨.unexpectedToken, text⟩
  | c :: rest =>
    if c = '\x7b' then .ok (.openBrace, rest)
    else if c = '\x7d' then .ok (.closeBrace, rest)
    else if c = '[' then .ok (.openBracket, rest)
    else if c = ']' then .ok (.closeBracket, rest)
    else if c = ',' then .ok (.comma, rest)
    else if c = ':' then .ok (.colon, rest)
    else if c = '"' || c = '\'' then
      (stringBody c text (rest.length + 1) [] rest).map fun (s, rest) => (.string s, rest)
    else if c = '-' || c = '+' || c.isDigit then number text
    else if c = '/' then .error ⟨.unexpectedToken, text⟩
    else wordOrKeyword text

def afterBlockComment? : List Char → Option (List Char)
  | '*' :: '/' :: rest => some rest
  | _ :: rest => afterBlockComment? rest
  | [] => none

/-- The tokens of a text, up to the first fault if there is one. The number bounds the tokens and
comments left to read. -/
def lexemesUpTo : Nat → List Char → List Lexeme × Option Fault
  | 0, _ => ([], none)
  | n + 1, text =>
    match text.dropWhile isBlank with
    | [] => ([], none)
    | '/' :: '/' :: rest => lexemesUpTo n (rest.dropWhile (· ≠ '\n'))
    | '/' :: '*' :: rest =>
      match afterBlockComment? rest with
      | some rest => lexemesUpTo n rest
      | none => ([], some ⟨.unterminatedComment, '/' :: '*' :: rest⟩)
    | start =>
      match token start with
      | .error fault => ([], some fault)
      | .ok (t, rest) =>
        let (lexemes, fault) := lexemesUpTo n rest
        (⟨t, start⟩ :: lexemes, fault)

def lexemes (text : List Char) : List Lexeme × Option Fault :=
  lexemesUpTo (text.length + 1) text

end LintEngine.Jsonc
