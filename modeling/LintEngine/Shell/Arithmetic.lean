import LintEngine.Shell.Bytes

namespace LintEngine.Shell

open Number

namespace Arithmetic

inductive Operation where
  | add
  | subtract
  | multiply
  | divide
  | remainder
  | shiftLeft
  | shiftRight
  | less
  | lessOrEqual
  | greater
  | greaterOrEqual
  | equal
  | unequal
  | bitAnd
  | bitXor
  | bitOr
deriving DecidableEq

inductive Sign where
  | plus
  | minus
  | logicalNot
  | bitNot
deriving DecidableEq

inductive Expression where
  | number (i : Int)
  | name (n : Bytes)
  | sign (s : Sign) (a : Expression)
  | binary (op : Operation) (a b : Expression)
  | logicalAnd (a b : Expression)
  | logicalOr (a b : Expression)
  | condition (c a b : Expression)
  | assign (n : Bytes) (op : Option Operation) (a : Expression)

inductive Fault where
  | malformed
  | divisionByZero
  | illegalNumber (text : Bytes)

def least : Int := -0x8000000000000000

def greatest : Int := 0x7fffffffffffffff

def wrap (i : Int) : Int := Int.bmod i 0x10000000000000000

def saturate (i : Int) : Int := max least (min greatest i)

def takeNumber (text : Bytes) : Nat × Bytes :=
  match text with
  | '0' :: x :: rest =>
    let digits := rest.takeWhile fun c => (hexValue? c).isSome
    if (x = 'x' || x = 'X') && !digits.isEmpty then
      ((ofRadix? 16 digits).getD 0, rest.drop digits.length)
    else
      let digits := text.takeWhile isOctal
      ((ofRadix? 8 digits).getD 0, text.drop digits.length)
  | text =>
    let digits := text.takeWhile Char.isDigit
    ((ofRadix? 10 digits).getD 0, text.drop digits.length)

def takeInteger? (text : Bytes) : Option (Int × Bytes) :=
  let text := text.dropWhile isSpace
  let (negative, digits) := match text with
    | '-' :: rest => (true, rest)
    | '+' :: rest => (false, rest)
    | text => (false, text)
  if digits.head?.any Char.isDigit then
    let (n, rest) := takeNumber digits
    some (saturate (if negative then -(n : Int) else n), rest)
  else none

def takeDecimal? (text : Bytes) : Option (Int × Bytes) :=
  let text := text.dropWhile isSpace
  let (negative, digits) := match text with
    | '-' :: rest => (true, rest)
    | '+' :: rest => (false, rest)
    | text => (false, text)
  let found := digits.takeWhile Char.isDigit
  if found.isEmpty then none
  else
    let n := (ofRadix? 10 found).getD 0
    some (saturate (if negative then -(n : Int) else n), digits.drop found.length)

def integer? (text : Bytes) : Option Int :=
  match takeInteger? text with
  | some (i, rest) => if rest.all isSpace then some i else none
  | none => none

def decimal? (text : Bytes) : Option Int :=
  match takeDecimal? text with
  | some (i, rest) => if rest.all isSpace then some i else none
  | none => none

/-- The operators with two sides, longer ones before those that they start with, each with its
rank. -/
def operators : List (String × Nat × Operation) :=
  [("<<", 8, .shiftLeft), (">>", 8, .shiftRight), ("<=", 7, .lessOrEqual),
    (">=", 7, .greaterOrEqual), ("==", 6, .equal), ("!=", 6, .unequal), ("<", 7, .less),
    (">", 7, .greater), ("+", 9, .add), ("-", 9, .subtract), ("*", 10, .multiply),
    ("/", 10, .divide), ("%", 10, .remainder), ("&", 5, .bitAnd), ("^", 4, .bitXor),
    ("|", 3, .bitOr)]

def assignmentOperators : List (String × Option Operation) :=
  [("<<=", some .shiftLeft), (">>=", some .shiftRight), ("*=", some .multiply),
    ("/=", some .divide), ("%=", some .remainder), ("+=", some .add), ("-=", some .subtract),
    ("&=", some .bitAnd), ("^=", some .bitXor), ("|=", some .bitOr)]

def skipSpace : Bytes → Bytes
  | '\\' :: '\n' :: rest => skipSpace rest
  | c :: rest => if isSpace c then skipSpace rest else c :: rest
  | [] => []

def assignment? (text : Bytes) : Option (Option Operation × Bytes) :=
  match assignmentOperators.findSome? fun (name, op) =>
    (stripLead? name.toList text).map fun rest => (op, rest) with
  | some found => some found
  | none =>
    match text with
    | '=' :: '=' :: _ => none
    | '=' :: rest => some (none, rest)
    | _ => none

def operator? (text : Bytes) : Option (Nat × Operation × Bytes) :=
  if (assignment? text).isSome || text.take 2 = ['&', '&'] || text.take 2 = ['|', '|'] then none
  else operators.findSome? fun (name, rank, op) =>
    (stripLead? name.toList text).map fun rest => (rank, op, rest)

mutual
/-- Reads an assignment or a choice. -/
def expression : Nat → Bytes → Option (Expression × Bytes)
  | 0, _ => none
  | n + 1, text =>
    let text := skipSpace text
    let name := text.takeWhile isNameChar
    match (if isName name then assignment? (skipSpace (text.drop name.length)) else none) with
    | some (op, rest) => do
      let (value, rest) ← expression n rest
      some (.assign name op value, rest)
    | none => do
      let (c, rest) ← disjunction n text
      match skipSpace rest with
      | '?' :: rest =>
        let (a, rest) ← expression n rest
        match skipSpace rest with
        | ':' :: rest =>
          let (b, rest) ← expression n rest
          some (.condition c a b, rest)
        | _ => none
      | rest => some (c, rest)
/-- Reads operands joined by the logical or. -/
def disjunction : Nat → Bytes → Option (Expression × Bytes)
  | 0, _ => none
  | n + 1, text => do
    let (a, rest) ← conjunction n text
    match stripLead? ['|', '|'] (skipSpace rest) with
    | some rest =>
      let (b, rest) ← disjunction n rest
      some (.logicalOr a b, rest)
    | none => some (a, rest)
/-- Reads operands joined by the logical and. -/
def conjunction : Nat → Bytes → Option (Expression × Bytes)
  | 0, _ => none
  | n + 1, text => do
    let (a, rest) ← operand n text
    let (a, rest) ← operations n 0 a rest
    match stripLead? ['&', '&'] (skipSpace rest) with
    | some rest =>
      let (b, rest) ← conjunction n rest
      some (.logicalAnd a b, rest)
    | none => some (a, rest)
/-- Goes on after an operand with operators of at least a rank. -/
def operations : Nat → Nat → Expression → Bytes → Option (Expression × Bytes)
  | 0, _, _, _ => none
  | n + 1, least, a, text =>
    match operator? (skipSpace text) with
    | none => some (a, text)
    | some (rank, op, rest) =>
      if rank < least then some (a, text)
      else do
        let (b, rest) ← operand n rest
        let (b, rest) ← operations n (rank + 1) b rest
        operations n least (.binary op a b) rest
def operand : Nat → Bytes → Option (Expression × Bytes)
  | 0, _ => none
  | n + 1, text =>
    match skipSpace text with
    | [] => none
    | c :: rest =>
      let signed (s : Sign) := (operand n rest).map fun (a, rest) => (Expression.sign s a, rest)
      if c = '!' then signed .logicalNot
      else if c = '~' then signed .bitNot
      else if c = '-' then signed .minus
      else if c = '+' then signed .plus
      else if c = '(' then do
        let (a, rest) ← expression n rest
        match skipSpace rest with
        | ')' :: rest => some (a, rest)
        | _ => none
      else if c.isDigit then
        let (i, rest) := takeNumber (c :: rest)
        some (.number (saturate i), rest)
      else if isNameStart c then
        let name := (c :: rest).takeWhile isNameChar
        some (.name name, (c :: rest).drop name.length)
      else none
end

def parse? (text : Bytes) : Option Expression :=
  match expression (16 * text.length + 32) text with
  | some (e, rest) => if (skipSpace rest).isEmpty then some e else none
  | none => none

def ofBool (b : Bool) : Int := if b then 1 else 0

def places (i : Int) : Nat := (i % 64).toNat

def onBits (f : Nat → Nat → Nat) (a b : Int) : Int :=
  wrap (f (a % 0x10000000000000000).toNat (b % 0x10000000000000000).toNat)

def Operation.apply (op : Operation) (a b : Int) : Except Fault Int :=
  match op with
  | .add => .ok (wrap (a + b))
  | .subtract => .ok (wrap (a - b))
  | .multiply => .ok (wrap (a * b))
  | .divide => if b = 0 then .error .divisionByZero else .ok (wrap (Int.tdiv a b))
  | .remainder => if b = 0 then .error .divisionByZero else .ok (wrap (Int.tmod a b))
  | .shiftLeft => .ok (wrap (a * (1 <<< places b : Nat)))
  | .shiftRight => .ok (a >>> places b)
  | .less => .ok (ofBool (a < b))
  | .lessOrEqual => .ok (ofBool (a ≤ b))
  | .greater => .ok (ofBool (b < a))
  | .greaterOrEqual => .ok (ofBool (b ≤ a))
  | .equal => .ok (ofBool (a = b))
  | .unequal => .ok (ofBool (a ≠ b))
  | .bitAnd => .ok (onBits Nat.land a b)
  | .bitXor => .ok (onBits Nat.xor a b)
  | .bitOr => .ok (onBits Nat.lor a b)

def Sign.apply (s : Sign) (a : Int) : Int :=
  match s with
  | .plus => a
  | .minus => wrap (-a)
  | .logicalNot => ofBool (a = 0)
  | .bitNot => -a - 1

def nameValue (value : Bytes → Bytes) (n : Bytes) (changes : List (Bytes × Int)) :
    Except Fault Int :=
  match changes.lookup n with
  | some i => .ok i
  | none =>
    let text := value n
    if text.isEmpty then .ok 0
    else
      match integer? text with
      | some i => .ok i
      | none => .error (.illegalNumber text)

/-- The value of an expression, with the assignments made in it, newest first. -/
def eval (value : Bytes → Bytes) :
    Expression → List (Bytes × Int) → Except Fault (Int × List (Bytes × Int))
  | .number i, changes => .ok (i, changes)
  | .name n, changes => do
    .ok (← nameValue value n changes, changes)
  | .sign s a, changes => do
    let (i, changes) ← eval value a changes
    .ok (s.apply i, changes)
  | .binary op a b, changes => do
    let (i, changes) ← eval value a changes
    let (j, changes) ← eval value b changes
    .ok (← op.apply i j, changes)
  | .logicalAnd a b, changes => do
    let (i, changes) ← eval value a changes
    if i = 0 then .ok (0, changes)
    else
      let (j, changes) ← eval value b changes
      .ok (ofBool (j ≠ 0), changes)
  | .logicalOr a b, changes => do
    let (i, changes) ← eval value a changes
    if i ≠ 0 then .ok (1, changes)
    else
      let (j, changes) ← eval value b changes
      .ok (ofBool (j ≠ 0), changes)
  | .condition c a b, changes => do
    let (i, changes) ← eval value c changes
    if i ≠ 0 then eval value a changes else eval value b changes
  | .assign n none a, changes => do
    let (i, changes) ← eval value a changes
    .ok (i, (n, i) :: changes)
  | .assign n (some op) a, changes => do
    let (i, changes) ← eval value a changes
    let k ← op.apply (← nameValue value n changes) i
    .ok (k, (n, k) :: changes)

def run (value : Bytes → Bytes) (text : Bytes) : Except Fault (Int × List (Bytes × Int)) :=
  match parse? text with
  | none => .error .malformed
  | some e => (eval value e []).map fun (i, changes) => (i, changes.reverse)

end Arithmetic

end LintEngine.Shell
