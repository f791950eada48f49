import LintEngine.Value.Basic
import LintEngine.Number.Decimal
import LintEngine.Number.Shortest

namespace LintEngine.Value

open Number

/-- Doubles are positional from `0.00001` up to sixteen digits before the point, and whole ones
keep a point and a zero. -/
def floatLayout : Layout := ⟨some (-5, 16), ".0"⟩

def twoHexDigits (n : Nat) : String :=
  let digits := Nat.toDigits 16 n
  String.ofList (List.replicate (2 - digits.length) '0' ++ digits)

def escapeChar (c : Char) : String :=
  if c = '"' then "\\\""
  else if c = '\\' then "\\\\"
  else if c = '\n' then "\\n"
  else if c = '\r' then "\\r"
  else if c = '\t' then "\\t"
  else if c = '\x08' then "\\b"
  else if c = '\x0c' then "\\f"
  else if c.toNat < 0x20 then "\\u00" ++ twoHexDigits c.toNat
  else c.toString

def stringText (s : String) : String :=
  "\"" ++ String.join (s.toList.map escapeChar) ++ "\""

def atomText : Value → String
  | null => "null"
  | bool true => "true"
  | bool false => "false"
  | int i => intText i
  | float x => floatLayout.write x
  | string s => stringText s
  | array _ => ""
  | map _ => ""

mutual
/-- The compact JSON text of a value. -/
def json (v : Value) : String :=
  match v with
  | array items => "[" ++ ",".intercalate (jsonItems items) ++ "]"
  | map fields => "\x7b" ++ ",".intercalate (jsonFields fields) ++ "\x7d"
  | atom => atomText atom
termination_by structural v
def jsonItems (items : List Value) : List String :=
  match items with
  | [] => []
  | v :: rest => json v :: jsonItems rest
termination_by structural items
def jsonFields (fields : List (String × Value)) : List String :=
  match fields with
  | [] => []
  | (k, v) :: rest => (stringText k ++ ":" ++ json v) :: jsonFields rest
termination_by structural fields
end

def indentation (level : Nat) : String :=
  String.ofList (List.replicate (2 * level) ' ')

/-- Parts on lines of their own between two brackets; nothing stands between them if there are no
parts. -/
def indented (level : Nat) (opening closing : String) (parts : List String) : String :=
  if parts.isEmpty then opening ++ closing
  else
    opening ++ "\n" ++
      ",\n".intercalate (parts.map fun part => indentation (level + 1) ++ part) ++
      "\n" ++ indentation level ++ closing

mutual
/-- The indented JSON text of a value at some level. -/
def pretty (level : Nat) (v : Value) : String :=
  match v with
  | array items => indented level "[" "]" (prettyItems (level + 1) items)
  | map fields => indented level "\x7b" "\x7d" (prettyFields (level + 1) fields)
  | atom => atomText atom
termination_by structural v
def prettyItems (level : Nat) (items : List Value) : List String :=
  match items with
  | [] => []
  | v :: rest => pretty level v :: prettyItems level rest
termination_by structural items
def prettyFields (level : Nat) (fields : List (String × Value)) : List String :=
  match fields with
  | [] => []
  | (k, v) :: rest => (stringText k ++ ": " ++ pretty level v) :: prettyFields level rest
termination_by structural fields
end

end LintEngine.Value
