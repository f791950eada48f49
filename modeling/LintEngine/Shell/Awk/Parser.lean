import LintEngine.Shell.Awk.Syntax
import LintEngine.Shell.Awk.Token
import LintEngine.Shell.Awk.Value

namespace LintEngine.Shell.Awk

inductive Use where
  | array (n : Name)
  | scalar (n : Name)
  | plain (n : Name)
  | passed (n : Name) (function : String) (place : Nat)
  | called (function : String) (count : Nat)
deriving DecidableEq

/-- What is left of a program, the parameters of the present function and its name, and what was
noted in which function. -/
structure Source where
  tokens : List Token
  parameters : List String
  function : String
  uses : List (String × Use)
  ranges : Nat
  scans : Bool
  loops : Nat

abbrev Reader := StateT Source Option

namespace Reader

def peek : Reader (Option Token) := return (← get).tokens.head?

def peekSecond : Reader (Option Token) := return (← get).tokens.tail.head?

def advance : Reader Unit := modify fun s => { s with tokens := s.tokens.tail }

def note (u : Use) : Reader Unit := modify fun s => { s with uses := (s.function, u) :: s.uses }

def isNext (t : Token) : Reader Bool := return (← peek) = some t

def accept (t : Token) : Reader Bool := do
  if ← isNext t then
    advance
    return true
  else return false

def expect (t : Token) : Reader Unit := do
  if !(← accept t) then failure

def acceptSymbol (s : String) : Reader Bool := accept (.symbol s)

def expectSymbol (s : String) : Reader Unit := expect (.symbol s)

def isSymbolNext (s : String) : Reader Bool := isNext (.symbol s)

def skipNewlines : Reader Unit :=
  modify fun s => { s with tokens := s.tokens.dropWhile (· = .newline) }

def resolve (name : String) : Reader Name := do
  match (← get).parameters.findIdx? (· = name) with
  | some place => return .parameter place
  | none => return .common name

def startsOperand : Option Token → Bool
  | some (.number _) | some (.text _) | some (.regex _) | some (.name _) | some (.call _)
  | some (.builtin _) => true
  | some (.keyword k) => k = "getline"
  | some (.symbol s) => ["$", "!", "(", "++", "--"].contains s
  | _ => false

def assignment? : Option Token → Option (Option Operation)
  | some (.symbol "=") => some none
  | some (.symbol "+=") => some (some .add)
  | some (.symbol "-=") => some (some .subtract)
  | some (.symbol "*=") => some (some .multiply)
  | some (.symbol "/=") => some (some .divide)
  | some (.symbol "%=") => some (some .remainder)
  | some (.symbol "^=") => some (some .power)
  | _ => none

def comparison? (writes : Bool) : Option Token → Option Comparison
  | some (.symbol "<") => some .less
  | some (.symbol "<=") => some .atMost
  | some (.symbol "==") => some .equal
  | some (.symbol "!=") => some .unequal
  | some (.symbol ">") => if writes then none else some .greater
  | some (.symbol ">=") => some .atLeast
  | _ => none

def argumentCounts (function : String) : Nat × Nat :=
  match function with
  | "length" => (0, 1)
  | "index" | "match" | "atan2" => (2, 2)
  | "substr" | "split" | "sub" | "gsub" => (2, 3)
  | "sprintf" => (1, 1000)
  | "rand" | "systime" => (0, 0)
  | "srand" | "fflush" => (0, 1)
  | "strftime" => (0, 3)
  | _ => (1, 1)

def noteArguments (function : String) (arguments : List Expr) : Reader Unit :=
  match function, arguments with
  | "split", _ :: .place (.variable n) :: _ => note (.array n)
  | "split", _ => failure
  | _, _ => return ()

def notePassed (function : String) : Nat → List Expr → Reader Unit
  | _, [] => return ()
  | place, e :: rest => do
    match e with
    | .place (.variable n) => note (.passed n function place)
    | _ => pure ()
    notePassed function (place + 1) rest

def target (e : Expr) : Reader Target :=
  match e with
  | .place (.variable n) => do
    note (.scalar n)
    return .variable n
  | .place t => return t
  | _ => failure

mutual
/-- Reads an expression; `writes` tells whether it is one of a list that is written, so that a sign
for greater ends it. The number bounds the depth. -/
def expression : Nat → (writes : Bool) → Reader Expr
  | 0, _ => failure
  | n + 1, writes => do
    let c ← alternatives n writes
    if ← acceptSymbol "?" then
      skipNewlines
      let a ← expression n writes
      skipNewlines
      expectSymbol ":"
      skipNewlines
      return .conditional c a (← expression n writes)
    else return c
/-- Reads what stands between signs for a choice of two. -/
def alternatives : Nat → Bool → Reader Expr
  | 0, _ => failure
  | n + 1, writes => do alternativesRest n writes (← conditions n writes)
def alternativesRest : Nat → Bool → Expr → Reader Expr
  | 0, _, _ => failure
  | n + 1, writes, e => do
    if ← acceptSymbol "||" then
      skipNewlines
      alternativesRest n writes (.either e (← conditions n writes))
    else return e
def conditions : Nat → Bool → Reader Expr
  | 0, _ => failure
  | n + 1, writes => do conditionsRest n writes (← memberships n writes)
def conditionsRest : Nat → Bool → Expr → Reader Expr
  | 0, _, _ => failure
  | n + 1, writes, e => do
    if ← acceptSymbol "&&" then
      skipNewlines
      conditionsRest n writes (.both e (← memberships n writes))
    else return e
def memberships : Nat → Bool → Reader Expr
  | 0, _ => failure
  | n + 1, writes => do membershipsRest n (← matchings n writes)
def membershipsRest : Nat → Expr → Reader Expr
  | 0, _ => failure
  | n + 1, e => do
    if ← accept (.keyword "in") then
      match ← peek with
      | some (.name name) =>
        advance
        let array ← resolve name
        note (.array array)
        membershipsRest n (match e with
          | .group es => .member es array
          | e => .member [e] array)
      | _ => failure
    else return e
def matchings : Nat → Bool → Reader Expr
  | 0, _ => failure
  | n + 1, writes => do matchingsRest n writes (← comparisons n writes)
def matchingsRest : Nat → Bool → Expr → Reader Expr
  | 0, _, _ => failure
  | n + 1, writes, e => do
    if ← acceptSymbol "~" then matchingsRest n writes (.matching false e (← comparisons n writes))
    else if ← acceptSymbol "!~" then
      matchingsRest n writes (.matching true e (← comparisons n writes))
    else return e
def comparisons : Nat → Bool → Reader Expr
  | 0, _ => failure
  | n + 1, writes => do comparisonsRest n writes (← operand n writes)
def comparisonsRest : Nat → Bool → Expr → Reader Expr
  | 0, _, _ => failure
  | n + 1, writes, e => do
    match comparison? writes (← peek) with
    | some c =>
      advance
      comparisonsRest n writes (.compare c e (← operand n writes))
    | none => return e
/-- Reads texts that are joined, or an assignment. -/
def operand : Nat → Bool → Reader Expr
  | 0, _ => failure
  | n + 1, writes => do
    let e ← joined n (← sum n)
    match e, assignment? (← peek) with
    | .place _, some op =>
      let t ← target e
      advance
      skipNewlines
      let value ← expression n writes
      return match op with
        | none => .assign t value
        | some op => .update t op value
    | _, _ => return e
def joined : Nat → Expr → Reader Expr
  | 0, _ => failure
  | n + 1, e => do
    if startsOperand (← peek) then joined n (.join e (← sum n)) else return e
def sum : Nat → Reader Expr
  | 0 => failure
  | n + 1 => do sumRest n (← product n)
def sumRest : Nat → Expr → Reader Expr
  | 0, _ => failure
  | n + 1, e => do
    if ← acceptSymbol "+" then sumRest n (.arithmetic .add e (← product n))
    else if ← acceptSymbol "-" then sumRest n (.arithmetic .subtract e (← product n))
    else return e
def product : Nat → Reader Expr
  | 0 => failure
  | n + 1 => do productRest n (← signed n)
def productRest : Nat → Expr → Reader Expr
  | 0, _ => failure
  | n + 1, e => do
    if ← acceptSymbol "*" then productRest n (.arithmetic .multiply e (← signed n))
    else if ← acceptSymbol "/" then productRest n (.arithmetic .divide e (← signed n))
    else if ← acceptSymbol "%" then productRest n (.arithmetic .remainder e (← signed n))
    else return e
def signed : Nat → Reader Expr
  | 0 => failure
  | n + 1 => do
    if ← acceptSymbol "!" then return .not (← signed n)
    else if ← acceptSymbol "-" then return .negative (← signed n)
    else if ← acceptSymbol "+" then return .positive (← signed n)
    else piped n (← power n)
/-- Reads what takes lines from a command. -/
def piped : Nat → Expr → Reader Expr
  | 0, _ => failure
  | n + 1, e => do
    if (← isSymbolNext "|") && (← peekSecond) = some (.keyword "getline") then
      advance
      advance
      piped n (.readLine (.command e) (← optionalTarget n))
    else return e
def power : Nat → Reader Expr
  | 0 => failure
  | n + 1 => do
    let e ← stepped n
    if ← acceptSymbol "^" then return .arithmetic .power e (← exponent n) else return e
def exponent : Nat → Reader Expr
  | 0 => failure
  | n + 1 => do
    if ← acceptSymbol "!" then return .not (← exponent n)
    else if ← acceptSymbol "-" then return .negative (← exponent n)
    else if ← acceptSymbol "+" then return .positive (← exponent n)
    else power n
def stepped : Nat → Reader Expr
  | 0 => failure
  | n + 1 => do
    let e ← primary n
    match e, ← peek with
    | .place _, some (.symbol "++") =>
      advance
      return .step (← target e) true false
    | .place _, some (.symbol "--") =>
      advance
      return .step (← target e) false false
    | _, _ => return e
/-- Reads a target, if one follows. -/
def optionalTarget : Nat → Reader (Option Target)
  | 0 => failure
  | n + 1 => do
    match ← peek with
    | some (.name _) | some (.symbol "$") => return some (← target (← primary n))
    | _ => return none
def primary : Nat → Reader Expr
  | 0 => failure
  | n + 1 => do
    match ← peek with
    | some (.number digits) =>
      advance
      return .number (Value.leadingNumber digits)
    | some (.text bytes) =>
      advance
      return .text bytes
    | some (.regex source) =>
      advance
      match Regex.parse? .scanner source with
      | some r => return .regex r
      | none => failure
    | some (.name name) =>
      advance
      let found ← resolve name
      if ← acceptSymbol "[" then
        note (.array found)
        let indices ← list n "]"
        if indices.isEmpty then failure
        return .place (.element found indices)
      else
        note (.plain found)
        return .place (.variable found)
    | some (.call function) =>
      advance
      expectSymbol "("
      let arguments ← list n ")"
      notePassed function 0 arguments
      note (.called function arguments.length)
      return .call function arguments
    | some (.builtin function) =>
      advance
      if ← acceptSymbol "(" then
        let arguments ← list n ")"
        let (least, most) := argumentCounts function
        if arguments.length < least || most < arguments.length then failure
        noteArguments function arguments
        return .builtin function arguments
      else if function = "length" then return .builtin function []
      else failure
    | some (.keyword "getline") =>
      advance
      let t ← optionalTarget n
      if ← acceptSymbol "<" then return .readLine (.file (← power n)) t
      else return .readLine .input t
    | some (.symbol "(") =>
      advance
      let es ← list n ")"
      if es.isEmpty then failure
      if 1 < es.length && !(← isNext (.keyword "in")) && !(← endsList) then failure
      return .group es
    | some (.symbol "$") =>
      advance
      match ← peek with
      | some (.symbol "-") =>
        advance
        return .place (.field (.negative (← primary n)))
      | some (.symbol "+") =>
        advance
        return .place (.field (.positive (← primary n)))
      | some (.symbol "!") =>
        advance
        return .place (.field (.not (← primary n)))
      | _ => return .place (.field (← primary n))
    | some (.symbol "++") =>
      advance
      return .step (← target (← primary n)) true true
    | some (.symbol "--") =>
      advance
      return .step (← target (← primary n)) false true
    | _ => failure
def endsList : Reader Bool := do
  match ← peek with
  | none | some .newline => return true
  | some (.symbol s) => return [";", "\x7d", ">", ">>", "|"].contains s
  | _ => return false
def list : Nat → (close : String) → Reader (List Expr)
  | 0, _ => failure
  | n + 1, close => do
    if ← acceptSymbol close then return []
    else
      let e ← expression n false
      if ← acceptSymbol "," then
        skipNewlines
        let more ← list n close
        if more.isEmpty then failure
        return e :: more
      else
        expectSymbol close
        return [e]
end

def expressions : Nat → (writes : Bool) → Reader (List Expr)
  | 0, _ => failure
  | n + 1, writes => do
    let e ← expression n writes
    if ← acceptSymbol "," then
      skipNewlines
      return e :: (← expressions n writes)
    else return [e]

def atEnd : Reader Bool := do
  match ← peek with
  | none | some .newline => return true
  | some (.symbol s) => return s = ";" || s = "\x7d"
  | _ => return false

def terminator : Reader Unit := do
  match ← peek with
  | some .newline => skipNewlines
  | some (.symbol ";") =>
    advance
    skipNewlines
  | some (.symbol "\x7d") => return ()
  | _ => failure

def destination (n : Nat) : Reader Destination := do
  if ← acceptSymbol ">" then return .file (← expression n true)
  else if ← acceptSymbol ">>" then return .append (← expression n true)
  else if ← acceptSymbol "|" then return .pipe (← expression n true)
  else return .output

def written (n : Nat) : Reader (List Expr × Destination) := do
  let ends := match ← peek with
    | some (.symbol s) => [">", ">>", "|"].contains s
    | _ => false
  let es ← if ends || (← atEnd) then pure [] else expressions n true
  let es := match es with
    | [.group es] => es
    | es => es
  return (es, ← destination n)

def optionalExpression (n : Nat) : Reader (Option Expr) := do
  if ← atEnd then return none else return some (← expression n false)

/-- Reads a statement that holds no others. -/
def simpleStatement (n : Nat) : Reader Statement := do
  match ← peek with
  | some (.keyword "print") =>
    advance
    let (es, d) ← written n
    return .print es d
  | some (.keyword "printf") =>
    advance
    let (es, d) ← written n
    if es.isEmpty then failure
    return .printf es d
  | some (.keyword "next") =>
    advance
    if !(← get).scans then failure
    return .next
  | some (.keyword "nextfile") =>
    advance
    if !(← get).scans then failure
    return .nextFile
  | some (.keyword "exit") =>
    advance
    return .exit (← optionalExpression n)
  | some (.keyword "return") =>
    advance
    if (← get).function.isEmpty then failure
    return .give (← optionalExpression n)
  | some (.keyword "break") =>
    advance
    if (← get).loops = 0 then failure
    return .break
  | some (.keyword "continue") =>
    advance
    if (← get).loops = 0 then failure
    return .continue
  | some (.keyword "delete") =>
    advance
    match ← peek with
    | some (.name name) =>
      advance
      let array ← resolve name
      note (.array array)
      if ← acceptSymbol "[" then
        let indices ← list n "]"
        if indices.isEmpty then failure
        return .delete array (some indices)
      else return .delete array none
    | _ => failure
  | _ => return .run (← expression n false)

def inLoop {α : Type} (r : Reader α) : Reader α := do
  modify fun s => { s with loops := s.loops + 1 }
  let a ← r
  modify fun s => { s with loops := s.loops - 1 }
  return a

def eachHead? : Reader (Option (Target × Name)) := do
  match (← get).tokens with
  | .name v :: .keyword "in" :: .name a :: .symbol ")" :: rest =>
    modify fun s => { s with tokens := rest }
    let v ← resolve v
    let array ← resolve a
    note (.scalar v)
    note (.array array)
    return some (.variable v, array)
  | _ => return none

mutual
/-- Reads a statement with its end. The number bounds the depth. -/
def statement : Nat → Reader Statement
  | 0 => failure
  | n + 1 => do
    match ← peek with
    | some (.symbol "\x7b") =>
      advance
      skipNewlines
      let ss ← statements n
      skipNewlines
      return .block ss
    | some (.symbol ";") =>
      advance
      skipNewlines
      return .block []
    | some (.keyword "if") =>
      advance
      expectSymbol "("
      let c ← expression n false
      expectSymbol ")"
      skipNewlines
      let a ← statement n
      if ← accept (.keyword "else") then
        skipNewlines
        return .cond c a (← statement n)
      else return .cond c a (.block [])
    | some (.keyword "while") =>
      advance
      expectSymbol "("
      let c ← expression n false
      expectSymbol ")"
      skipNewlines
      return .while c (← inLoop (statement n))
    | some (.keyword "do") =>
      advance
      skipNewlines
      let body ← inLoop (statement n)
      expect (.keyword "while")
      expectSymbol "("
      let c ← expression n false
      expectSymbol ")"
      terminator
      return .doWhile body c
    | some (.keyword "for") =>
      advance
      expectSymbol "("
      match ← eachHead? with
      | some (t, array) =>
        skipNewlines
        return .each t array (← inLoop (statement n))
      | none =>
        let first ← if ← isSymbolNext ";" then pure none
          else pure (some (← expression n false))
        expectSymbol ";"
        skipNewlines
        let condition ← if ← isSymbolNext ";" then pure none
          else pure (some (← expression n false))
        expectSymbol ";"
        skipNewlines
        let step ← if ← isSymbolNext ")" then pure none
          else pure (some (← expression n false))
        expectSymbol ")"
        skipNewlines
        return .loop first condition step (← inLoop (statement n))
    | _ =>
      let s ← simpleStatement n
      terminator
      return s
def statements : Nat → Reader (List Statement)
  | 0 => failure
  | n + 1 => do
    if ← acceptSymbol "\x7d" then return []
    else
      let s ← statement n
      return s :: (← statements n)
end

def action (n : Nat) : Reader Statement := do
  expectSymbol "\x7b"
  skipNewlines
  let ss ← statements n
  let _ ← acceptSymbol ";"
  skipNewlines
  return .block ss

def unscanned {α : Type} (r : Reader α) : Reader α := do
  modify fun s => { s with scans := false }
  let a ← r
  modify fun s => { s with scans := true }
  return a

def parameterNames : Nat → Reader (List String)
  | 0 => failure
  | n + 1 => do
    match ← peek with
    | some (.symbol ")") =>
      advance
      return []
    | some (.name name) =>
      advance
      if ← acceptSymbol "," then
        skipNewlines
        return name :: (← parameterNames n)
      else
        expectSymbol ")"
        return [name]
    | _ => failure

structure Definition where
  name : String
  count : Nat
  body : Statement

def definition (n : Nat) : Reader Definition := do
  let name ← match ← peek with
    | some (.name name) | some (.call name) => pure name
    | _ => failure
  advance
  expectSymbol "("
  let parameters ← parameterNames n
  if parameters.contains name then failure
  skipNewlines
  modify fun s => { s with parameters := parameters, function := name }
  let body ← unscanned (action n)
  modify fun s => { s with parameters := [], function := "" }
  return ⟨name, parameters.length, body⟩

def rule (n : Nat) : Reader Rule := do
  match ← peek with
  | some (.keyword "BEGIN") =>
    advance
    return ⟨.atStart, some (← unscanned (action n))⟩
  | some (.keyword "END") =>
    advance
    return ⟨.atEnd, some (← unscanned (action n))⟩
  | some (.symbol "\x7b") => return ⟨.always, some (← action n)⟩
  | _ =>
    let first ← expression n false
    let pattern ← if ← acceptSymbol "," then
        skipNewlines
        let last ← expression n false
        let number := (← get).ranges
        modify fun s => { s with ranges := number + 1 }
        pure (Pattern.range number first last)
      else pure (Pattern.one first)
    if ← isSymbolNext "\x7b" then return ⟨pattern, some (← action n)⟩
    else
      match ← peek with
      | none => return ⟨pattern, none⟩
      | some .newline | some (.symbol ";") =>
        advance
        skipNewlines
        return ⟨pattern, none⟩
      | _ => failure

def parts (depth : Nat) : Nat → Reader (List Rule × List Definition)
  | 0 => failure
  | n + 1 => do
    match ← peek with
    | none => return ([], [])
    | some (.keyword "function") =>
      advance
      let d ← definition depth
      let (rules, definitions) ← parts depth n
      return (rules, d :: definitions)
    | _ =>
      let r ← rule depth
      let (rules, definitions) ← parts depth n
      return (r :: rules, definitions)

end Reader

abbrev Slot := String × Nat

/-- The parameters that turn out to be arrays because they are passed on as ones. The number bounds
the rounds. -/
def spreadArrays (uses : List (String × Use)) : Nat → List Slot → List Slot
  | 0, found => found
  | n + 1, found =>
    let more := uses.filterMap fun (function, u) => match u with
      | .passed (.parameter place) callee target =>
        if found.contains (callee, target) && !found.contains (function, place) then
          some (function, place)
        else none
      | _ => none
    if more.isEmpty then found else spreadArrays uses n (more ++ found)

def isSound (definitions : List Reader.Definition) (uses : List (String × Use)) : Bool :=
  uses.all fun (_, u) => match u with
    | .called function count =>
      definitions.any fun d => d.name = function && count ≤ d.count
    | .scalar (.common name) =>
      !uses.any (fun (_, v) => v = .array (.common name)) &&
        !definitions.any (·.name = name)
    | .array (.common name) | .plain (.common name) => !definitions.any (·.name = name)
    | _ => true

def Program.parse? (text : Bytes) : Option Program := do
  let tokens ← Token.ofText text
  let depth := 32 * (tokens.length + 4)
  let start : Source := ⟨tokens.dropWhile (· = .newline), [], "", [], 0, true, 0⟩
  let ((rules, definitions), s) ← (Reader.parts depth (tokens.length + 1)).run start
  if isSound definitions s.uses then
    let direct := s.uses.filterMap fun (function, u) => match u with
      | .array (.parameter place) => some (function, place)
      | _ => none
    let arrays := spreadArrays s.uses (s.uses.length + 1) direct
    some ⟨rules, definitions.map fun d =>
      ⟨d.name, (List.range d.count).map fun place => arrays.contains (d.name, place), d.body⟩⟩
  else none

end LintEngine.Shell.Awk
