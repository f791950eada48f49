import LintEngine.Shell.Regex
import LintEngine.Shell.Utility.Work

namespace LintEngine.Shell

open Number

namespace Translate

/-- A part of a set: bytes in order, a named class, or a byte that is repeated, perhaps as often as
is needed. -/
inductive SetPart where
  | chars (bytes : Bytes)
  | named (name : String) (bytes : Bytes)
  | repeated (c : Char) (times : Option Nat)

def setChar? : Bytes → Option (Char × Bytes)
  | [] => none
  | '\\' :: c :: rest =>
    if isOctal c then
      let (n, after) := takeOctal 3 (c :: rest)
      if n < 256 then some (byteChar n, after)
      else
        let (n, after) := takeOctal 2 (c :: rest)
        some (byteChar n, after)
    else some ((controlChar? c).getD c, rest)
  | c :: rest => some (c, rest)

def rangeChars (a b : Char) : Bytes :=
  (List.range (b.toNat + 1 - a.toNat)).map fun n => Char.ofNat (a.toNat + n)

def classChars? (name : String) : Option Bytes :=
  (Regex.namedClass? name).map fun ranges =>
    (ranges.mergeSort fun a b => a.1 ≤ b.1).flatMap fun r => rangeChars r.1 r.2

def repeated? (text : Bytes) : Option (SetPart × Bytes) := do
  let (c, rest) ← setChar? text
  match rest with
  | '*' :: rest =>
    let digits := rest.takeWhile Char.isDigit
    match rest.drop digits.length with
    | ']' :: after =>
      let base := if digits.head? = some '0' then 8 else 10
      let n := (ofRadix? base digits).getD 0
      some (.repeated c (if n = 0 then none else some n), after)
    | _ => none
  | _ => none

/-- Reads the parts of a set. The number bounds them. -/
def setParts : Nat → Bytes → Except Bytes (List SetPart)
  | 0, _ => .ok []
  | _ + 1, [] => .ok []
  | n + 1, text =>
    match bracketed? text with
    | some (.error message) => .error message
    | some (.ok (part, rest)) => do .ok (part :: (← setParts n rest))
    | none =>
      match setChar? text with
      | none => .ok []
      | some (a, rest) =>
        match rest with
        | '-' :: more =>
          match setChar? more with
          | some (b, after) =>
            if b < a then
              .error ("range-endpoints of '".toList ++ [a, '-', b] ++
                "' are in reverse collating sequence order".toList)
            else do .ok (.chars (rangeChars a b) :: (← setParts n after))
          | none => .ok [.chars [a, '-']]
        | rest => do .ok (.chars [a] :: (← setParts n rest))
where
  bracketed? : Bytes → Option (Except Bytes (SetPart × Bytes))
    | '[' :: ':' :: rest =>
      let name := rest.takeWhile (· ≠ ':')
      match rest.drop name.length with
      | ':' :: ']' :: after =>
        match classChars? (String.ofList name) with
        | some bytes => some (.ok (.named (String.ofList name) bytes, after))
        | none => some (.error ("invalid character class '".toList ++ name ++ ['\'']))
      | _ => (repeated? (':' :: rest)).map .ok
    | '[' :: '=' :: c :: '=' :: ']' :: rest => some (.ok (.chars [c], rest))
    | '[' :: rest => (repeated? rest).map .ok
    | _ => none

def bytesOf (length : Nat) (parts : List SetPart) : Bytes :=
  let size := parts.foldl (fun n part => n + (match part with
    | .chars bytes => bytes.length
    | .named _ bytes => bytes.length
    | .repeated _ times => times.getD 0)) 0
  parts.flatMap fun
    | .chars bytes => bytes
    | .named _ bytes => bytes
    | .repeated c times => List.replicate (times.getD (length - size)) c

def complement (set : Bytes) : Bytes :=
  ((List.range 256).map Char.ofNat).filter fun c => !set.contains c

def stretch (length : Nat) (set : Bytes) : Bytes :=
  match set.getLast? with
  | some c => set ++ List.replicate (length - set.length) c
  | none => set

def replaceChar (pairs : List (Char × Char)) (c : Char) : Char :=
  (pairs.reverse.lookup c).getD c

def squeeze (set : Bytes) (previous : Option Char) : Bytes → Bytes
  | [] => []
  | c :: rest =>
    if previous = some c && set.contains c then squeeze set previous rest
    else c :: squeeze set (some c) rest

structure Plan where
  complements : Bool
  deletes : Bool
  squeezes : Bool
  truncates : Bool

def badClass (parts : List SetPart) : Bool :=
  parts.any fun
    | .named name _ => name ≠ "upper" && name ≠ "lower"
    | _ => false

def apply (o : Plan) (first : List SetPart) (second : Option (List SetPart)) (text : Bytes) :
    Except String Bytes :=
  let set := bytesOf 0 first
  let set := if o.complements then complement set else set
  match o.deletes, second with
  | true, none => .ok (text.filter fun c => !set.contains c)
  | true, some second =>
    .ok (squeeze (bytesOf 0 second) none (text.filter fun c => !set.contains c))
  | false, none => .ok (squeeze set none text)
  | false, some second =>
    if badClass second then
      .error ("when translating, the only character classes that may appear in\n" ++
        "string2 are 'upper' and 'lower'")
    else
      let target := bytesOf set.length second
      if target.isEmpty && !o.truncates && !set.isEmpty then
        .error "when not truncating set1, string2 must be non-empty"
      else
        let pairs := set.zip (if o.truncates then target else stretch set.length target)
        let translated := text.map (replaceChar pairs)
        .ok (if o.squeezes then squeeze target none translated else translated)

def options : OptionTable where
  letters := OptionTable.flags "cCdst"
  names := [("complement", 'c'), ("delete", 'd'), ("squeeze-repeats", 's'), ("truncate-set1", 't')]

/-- Translates, deletes or squeezes bytes of the input. -/
def tr : Utility := fun arguments => do
  match options.readFrom true (arguments.length + 1) arguments with
  | .error f =>
    Task.fault "tr" f.message
    Task.hint "tr"
    return 1
  | .ok p =>
    let o : Plan := ⟨p.has 'c' || p.has 'C', p.has 'd', p.has 's', p.has 't'⟩
    let least := if o.deletes = o.squeezes then 2 else 1
    let most := if o.deletes && !o.squeezes then 1 else 2
    if p.operands.length < least then
      Task.fault "tr" (match p.operands.getLast? with
        | none => "missing operand".toList
        | some a => "missing operand after ".toList ++ Task.inQuotes a)
      Task.hint "tr"
      return 1
    else if most < p.operands.length then
      Task.fault "tr" ("extra operand ".toList ++ Task.inQuotes ((p.operands[most]?).getD []))
      Task.hint "tr"
      return 1
    else
      match p.operands.mapM fun a => setParts (a.length + 1) a with
      | .error message =>
        Task.fault "tr" message
        return 1
      | .ok sets =>
        let text ← Task.takeInput
        match apply o (sets.head?.getD []) sets[1]? text with
        | .ok output =>
          Task.print output
          return 0
        | .error message =>
          Task.fault "tr" message.toList
          return 1

end Translate

end LintEngine.Shell
