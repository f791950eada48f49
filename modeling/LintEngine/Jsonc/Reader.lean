import LintEngine.Jsonc.Token
import LintEngine.Number.Scaled
import LintEngine.Value.Basic

namespace LintEngine.Jsonc

/-- The number as a value: an integer within 64 bits if it is whole, else a double that is scaled
from its leading digits. A number that neither can hold stays text. -/
def numberValue (text : String) : Value :=
  let negative := text.startsWith "-"
  let magnitude := text.toList.dropWhile fun c => c = '-' || c = '+'
  match magnitude with
  | '0' :: x :: digits =>
    if x = 'x' || x = 'X' then
      match Number.ofRadix? 16 digits with
      | some n =>
        if n < 0x8000000000000000 then .int (if negative then -(n : Int) else n) else .string text
      | none => .string text
    else decimal negative magnitude
  | _ => decimal negative magnitude
where
  decimal (negative : Bool) (magnitude : List Char) : Value :=
    let n := Number.ofDigits magnitude
    if magnitude.all Char.isDigit &&
        (if negative then 0 < n && n ≤ 0x8000000000000000 else n < 0x10000000000000000) then
      .int (if negative then -(n : Int) else n)
    else
      match (Number.Scaled.parse? magnitude).bind Number.Scaled.toFloat? with
      | some x => .float (if negative then -x else x)
      | none => .string text

def next (ending : Option Fault) : List Lexeme → Except Fault (Option (Lexeme × List Lexeme))
  | l :: rest => .ok (some (l, rest))
  | [] => match ending with
    | some fault => .error fault
    | none => .ok none

def skipComma (ending : Option Fault) (tokens : List Lexeme) : Except Fault (List Lexeme) := do
  match ← next ending tokens with
  | some (⟨.comma, _⟩, rest) => .ok rest
  | _ => .ok tokens

def key? : Token → Option String
  | .string s => some s
  | .word s => some s
  | .number s => some s
  | _ => none

mutual
/-- Reads the value that starts with the first token. The number bounds the tokens left to read. -/
def readValue (bound : Nat) (ending : Option Fault) (tokens : List Lexeme) :
    Except Fault (Option Value × List Lexeme) :=
  match bound with
  | 0 => .error ⟨.unexpectedToken, []⟩
  | bound + 1 => do
    match ← next ending tokens with
    | none => .ok (none, [])
    | some (l, rest) =>
      match l.token with
      | .openBrace =>
        let (entries, rest) ← readEntries bound ending l.start rest
        .ok (some (.map (Fields.ofEntries entries)), rest)
      | .openBracket =>
        let (items, rest) ← readItems bound ending l.start rest
        .ok (some (.array items), rest)
      | .string s => .ok (some (.string s), rest)
      | .boolean b => .ok (some (.bool b), rest)
      | .number s => .ok (some (numberValue s), rest)
      | .null => .ok (some .null, rest)
      | .closeBracket => .error ⟨.unexpectedCloseBracket, l.start⟩
      | .closeBrace => .error ⟨.unexpectedCloseBrace, l.start⟩
      | .comma => .error ⟨.unexpectedComma, l.start⟩
      | .colon => .error ⟨.unexpectedColon, l.start⟩
      | .word _ => .error ⟨.unexpectedWord, l.start⟩
/-- Reads the entries of an object up to its closing brace. -/
def readEntries (bound : Nat) (ending : Option Fault) (opening : List Char)
    (tokens : List Lexeme) : Except Fault (List (String × Value) × List Lexeme) :=
  match bound with
  | 0 => .error ⟨.unterminatedObject, opening⟩
  | bound + 1 => do
    match ← next ending tokens with
    | none => .error ⟨.unterminatedObject, opening⟩
    | some (l, rest) =>
      if l.token = .closeBrace then .ok ([], rest)
      else
        match key? l.token with
        | none => .error ⟨.unexpectedTokenInObject, l.start⟩
        | some key =>
          match ← next ending rest with
          | some (⟨.colon, _⟩, rest) =>
            match ← readValue bound ending rest with
            | (none, _) => .error ⟨.expectedValue, []⟩
            | (some value, rest) =>
              let (entries, rest) ← readEntries bound ending opening (← skipComma ending rest)
              .ok ((key, value) :: entries, rest)
          | some (other, _) => .error ⟨.expectedColon, other.start⟩
          | none => .error ⟨.expectedColon, []⟩
/-- Reads the items of an array up to its closing bracket. -/
def readItems (bound : Nat) (ending : Option Fault) (opening : List Char)
    (tokens : List Lexeme) : Except Fault (List Value × List Lexeme) :=
  match bound with
  | 0 => .error ⟨.unterminatedArray, opening⟩
  | bound + 1 => do
    match ← next ending tokens with
    | none => .error ⟨.unterminatedArray, opening⟩
    | some (l, rest) =>
      if l.token = .closeBracket then .ok ([], rest)
      else
        match ← readValue bound ending tokens with
        | (none, _) => .error ⟨.unterminatedArray, opening⟩
        | (some value, rest) =>
          let (items, rest) ← readItems bound ending opening (← skipComma ending rest)
          .ok (value :: items, rest)
end

def readText (text : List Char) : Except Fault (Option Value) := do
  let (tokens, ending) := lexemes text
  let (value, rest) ← readValue (2 * tokens.length + 2) ending tokens
  match ← next ending rest with
  | some (l, _) => .error ⟨.severalValues, l.start⟩
  | none => .ok value

structure Report where
  problem : Problem
  line : Nat
  column : Nat
deriving DecidableEq, Repr

def Report.message (r : Report) : String :=
  s!"{r.problem.message} on line {r.line} column {r.column}"

def Fault.locate (text : List Char) (fault : Fault) : Report :=
  let before := text.take (text.length - fault.rest.length)
  { problem := fault.problem
    line := before.count '\n' + 1
    column := (before.reverse.takeWhile (· ≠ '\n')).length + 1 }

def read (text : String) : Except Report (Option Value) :=
  (readText text.toList).mapError (Fault.locate text.toList)

end LintEngine.Jsonc
