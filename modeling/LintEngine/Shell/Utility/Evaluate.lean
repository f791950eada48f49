import LintEngine.Shell.Arithmetic
import LintEngine.Shell.Regex
import LintEngine.Shell.Utility.Work

namespace LintEngine.Shell

open Number

namespace Evaluate

inductive Fault where
  | malformed (message : Bytes)
  | division
  | notInteger
  | pattern

def Fault.message : Fault → Bytes
  | malformed message => "syntax error: ".toList ++ message
  | division => "division by zero".toList
  | notInteger => "non-integer argument".toList
  | pattern => "Invalid regular expression".toList

abbrev Reader := StateT (List Bytes) (Except Fault)

def integer? (text : Bytes) : Option Int :=
  let (negative, digits) := match text with
    | '-' :: digits => (true, digits)
    | digits => (false, digits)
  if digits.isEmpty || !digits.all Char.isDigit then none
  else
    let magnitude : Int := ofDigits digits
    some (if negative then -magnitude else magnitude)

def isNull (value : Bytes) : Bool :=
  value.isEmpty || integer? value = some 0

def ofInt (i : Int) : Bytes := intBytes i

def numberOf (value : Bytes) : Except Fault Int :=
  match integer? value with
  | some i => .ok i
  | none => .error .notInteger

def compare (a b : Bytes) : Ordering :=
  match integer? a, integer? b with
  | some x, some y => Ord.compare x y
  | _, _ => compareBytes a b

def apply (operator : String) (a b : Bytes) : Except Fault Bytes := do
  let ofTruth (truth : Bool) : Except Fault Bytes := .ok [if truth then '1' else '0']
  match operator with
  | "=" | "==" => ofTruth (compare a b = .eq)
  | "!=" => ofTruth (compare a b ≠ .eq)
  | "<" => ofTruth (compare a b = .lt)
  | "<=" => ofTruth (compare a b ≠ .gt)
  | ">" => ofTruth (compare a b = .gt)
  | ">=" => ofTruth (compare a b ≠ .lt)
  | _ =>
    let x ← numberOf a
    let y ← numberOf b
    match operator with
    | "+" => .ok (ofInt (x + y))
    | "-" => .ok (ofInt (x - y))
    | "*" => .ok (ofInt (x * y))
    | _ =>
      if y = 0 then .error .division
      else .ok (ofInt (if operator = "/" then x.tdiv y else x.tmod y))

def matched (text pattern : Bytes) : Except Fault Bytes :=
  match Regex.parse? (.finder false) pattern with
  | none => .error .pattern
  | some r =>
    let hasGroup := (pattern.zip (pattern.drop 1)).contains ('\\', '(')
    match Regex.matchHere Regex.Mode.plain r [] text with
    | some p =>
      let size := text.length - p.rest.length
      .ok (if hasGroup then (p.groups.lookup 1).getD [] else natText size)
    | none => .ok (if hasGroup then [] else ['0'])

def ranks : List (List String) :=
  [["|"], ["&"], ["=", "==", "!=", "<", "<=", ">", ">="], ["+", "-"], ["*", "/", "%"], [":"]]

def next : Reader Bytes := do
  match ← get with
  | [] => throw (.malformed "missing argument".toList)
  | a :: rest =>
    set rest
    return a

def combine (operator : String) (a b : Bytes) : Except Fault Bytes :=
  match operator with
  | "|" => .ok (if !isNull a then a else if !isNull b then b else ['0'])
  | "&" => .ok (if isNull a || isNull b then ['0'] else a)
  | ":" => matched a b
  | _ => apply operator a b

mutual
/-- Reads operands and the operators of a rank and above it. -/
def operations : Nat → List (List String) → Reader Bytes
  | 0, _ => throw (.malformed "nested too deeply".toList)
  | n + 1, [] => operand n
  | n + 1, operators :: ranks => do
    let first ← operations n ranks
    more n operators ranks first
/-- Goes on with operators of a rank. -/
def more : Nat → List String → List (List String) → Bytes → Reader Bytes
  | 0, _, _, _ => throw (.malformed "nested too deeply".toList)
  | n + 1, operators, ranks, value => do
    match ← get with
    | [] => return value
    | a :: rest =>
      if operators.contains (String.ofList a) then
        set rest
        let second ← operations n ranks
        more n operators ranks (← combine (String.ofList a) value second)
      else return value
/-- Reads a value, a call or an expression in parentheses. -/
def operand : Nat → Reader Bytes
  | 0 => throw (.malformed "nested too deeply".toList)
  | n + 1 => do
    let a ← next
    match String.ofList a with
    | "(" =>
      let value ← operations n ranks
      let closing ← next
      if closing = [')'] then return value
      else throw (.malformed "expecting ')'".toList)
    | ")" => throw (.malformed "unexpected ')'".toList)
    | "+" => next
    | "length" =>
      let text ← operand n
      return natText text.length
    | "match" =>
      let text ← operand n
      let pattern ← operand n
      matched text pattern
    | "index" =>
      let text ← operand n
      let set ← operand n
      let skipped := (text.takeWhile fun c => !set.contains c).length
      return if skipped < text.length then natText (skipped + 1) else ['0']
    | "substr" =>
      let text ← operand n
      let start ← operand n
      let size ← operand n
      match integer? start, integer? size with
      | some start, some size =>
        if start ≤ 0 || size ≤ 0 then return []
        else return (text.drop (start.toNat - 1)).take size.toNat
      | _, _ => return []
    | _ => return a
end

def evaluate (arguments : List Bytes) : Except Fault Bytes :=
  match (operations (20 * arguments.length + 20) ranks).run arguments with
  | .error f => .error f
  | .ok (value, []) => .ok value
  | .ok (_, a :: _) => .error (.malformed ("unexpected argument ".toList ++ Task.inQuotes a))

def expr : Utility := fun arguments => do
  let arguments := if arguments.head? = some ['-', '-'] then arguments.drop 1 else arguments
  if arguments.isEmpty then
    Task.fault "expr" "missing operand".toList
    Task.hint "expr"
    return 2
  else
    match evaluate arguments with
    | .ok value =>
      Task.print (value ++ ['\n'])
      return if isNull value then 1 else 0
    | .error f =>
      Task.fault "expr" f.message
      return 2

end Evaluate

end LintEngine.Shell
