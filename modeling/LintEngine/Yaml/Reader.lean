import LintEngine.Text.Encoding
import LintEngine.Value.Basic
import LintEngine.Yaml.Event

namespace LintEngine.Yaml

open Number

def isNullText (text : String) : Bool :=
  text = "~" || text = "null" || text = "Null" || text = "NULL"

def bool? (text : String) : Option Bool :=
  if text = "true" || text = "True" || text = "TRUE" then some true
  else if text = "false" || text = "False" || text = "FALSE" then some false
  else none

def hasLeadingZero (text : List Char) : Bool :=
  let digits := match text with
    | '-' :: rest => rest
    | '+' :: rest => rest
    | text => text
  match digits with
  | '0' :: c :: rest => (c :: rest).all Char.isDigit
  | _ => false

def natural? : List Char → Option Nat
  | '0' :: 'x' :: digits => ofRadix? 16 digits
  | '0' :: 'o' :: digits => ofRadix? 8 digits
  | '0' :: 'b' :: digits => ofRadix? 2 digits
  | digits => ofRadix? 10 digits

def integer? (text : List Char) : Option Int :=
  if hasLeadingZero text then none
  else
    match text with
    | '-' :: digits => (natural? digits).map fun n => -(n : Int)
    | '+' :: digits => (natural? digits).map fun n => (n : Int)
    | digits => (natural? digits).map fun n => (n : Int)

def float? (text : String) : Option Float :=
  let infinite := [".inf", ".Inf", ".INF"]
  if (infinite ++ infinite.map ("+" ++ ·)).contains text then some (1.0 / 0.0)
  else if (infinite.map ("-" ++ ·)).contains text then some (-1.0 / 0.0)
  else if [".nan", ".NaN", ".NAN"].contains text then some (0.0 / 0.0)
  else
    match Decimal.parse? text.toList with
    | some d => if d.toFloat.isFinite then some d.toFloat else none
    | none => none

def floatValue (x : Float) : Value :=
  if x.isFinite then .float x else .null

def integerValue? (i : Int) : Option (Except Fault Value) :=
  if -0x8000000000000000 ≤ i && i < 0x10000000000000000 then some (.ok (.int i))
  else if -0x80000000000000000000000000000000 ≤ i && i < 0x100000000000000000000000000000000 then
    some (.error .integerTooLarge)
  else none

def integerText? (text : String) : Option (Except Fault Value) :=
  (integer? text.toList).bind integerValue?

def plainValue (text : String) : Except Fault Value :=
  if text = "" || isNullText text then .ok .null
  else
    match bool? text with
    | some b => .ok (.bool b)
    | none =>
      match integerText? text with
      | some result => result
      | none =>
        if hasLeadingZero text.toList then .ok (.string text)
        else
          match float? text with
          | some x => .ok (floatValue x)
          | none => .ok (.string text)

def coreTag (name : String) : List UInt8 :=
  Scan.utf8 ("tag:yaml.org,2002:" ++ name).toList

def isLocalTag (tag : List UInt8) : Bool :=
  tag.head? = some 0x21

def isTextTag (tag : List UInt8) : Bool :=
  (Text.decode ⟨tag.toArray⟩).toBool

/-- The value of a scalar. -/
def scalarValue (tag : Option (List UInt8)) (text : String) (plain : Bool) : Except Fault Value :=
  match tag with
  | none => if plain then plainValue text else .ok (.string text)
  | some tag =>
    if isLocalTag tag then
      if isTextTag tag then .error .localTag
      else if plain then plainValue text
      else .ok (.string text)
    else if tag = coreTag "bool" then
      match bool? text with
      | some b => .ok (.bool b)
      | none => .error .unsuitableText
    else if tag = coreTag "int" then
      match integerText? text with
      | some result => result
      | none => .error .unsuitableText
    else if tag = coreTag "float" then
      match float? text with
      | some x => .ok (floatValue x)
      | none => .error .unsuitableText
    else if tag = coreTag "null" then
      if isNullText text then .ok .null else .error .unsuitableText
    else .ok (.string text)

def checkTag (q : Properties) : Except Fault Unit :=
  match q.tag with
  | some tag => if isLocalTag tag && isTextTag tag then .error .localTag else .ok ()
  | none => .ok ()

inductive Step where
  | alias (number : Nat)
  | event (e : Event)

/-- The numbers of names, and the places of numbered nodes, the newest first. A name gets the
number of names before it, also when it is given again. -/
structure Anchors where
  numbers : List (String × Nat)
  places : List (Nat × Nat)

def Anchors.define (a : Anchors) (name : String) (place : Nat) : Anchors :=
  let number := a.numbers.length
  ⟨(name, number) :: a.numbers.filter (fun entry => entry.1 ≠ name), (number, place) :: a.places⟩

def Event.anchor? : Event → Option String
  | .scalar q _ _ => q.anchor
  | .sequenceStart q => q.anchor
  | .mappingStart q => q.anchor
  | _ => none

def number (anchors : Anchors) (place : Nat) : List Event → Except Fault (List Step × Anchors)
  | [] => .ok ([], anchors)
  | .alias name :: rest =>
    match anchors.numbers.lookup name with
    | none => .error .unknownAlias
    | some n => do
      let (steps, anchors) ← number anchors (place + 1) rest
      .ok (.alias n :: steps, anchors)
  | e :: rest => do
    let anchors := match e.anchor? with
      | some name => anchors.define name place
      | none => anchors
    let (steps, anchors) ← number anchors (place + 1) rest
    .ok (.event e :: steps, anchors)

structure Document where
  steps : List Step
  places : List (Nat × Nat)

namespace Document

def target (d : Document) (number : Nat) : List Step :=
  match d.places.lookup number with
  | some place => d.steps.drop place
  | none => []

def depthLimit : Nat := 128

def jumpLimit (d : Document) : Nat :=
  100 * d.steps.length

structure Reading (α : Type) where
  result : α
  rest : List Step
  jumps : Nat

def jump (d : Document) (jumps : Nat) : Except Fault Nat :=
  if jumps < d.jumpLimit then .ok (jumps + 1) else .error .tooManyAliases

mutual
/-- Reads a value. The first number bounds the steps, the second one the depth. -/
def value (d : Document) (depth jumps : Nat) (steps : List Step) :
    Nat → Except Fault (Reading Value)
  | 0 => .error .tooDeep
  | n + 1 => do
    match steps with
    | .alias number :: rest =>
      let jumps ← d.jump jumps
      let r ← d.value depth jumps (d.target number) n
      .ok ⟨r.result, rest, r.jumps⟩
    | .event (.scalar q text plain) :: rest =>
      let v ← scalarValue q.tag text plain
      .ok ⟨v, rest, jumps⟩
    | .event (.sequenceStart q) :: rest =>
      checkTag q
      if depth = 0 then .error .tooDeep
      else
        let r ← d.items (depth - 1) jumps rest n
        .ok ⟨.array r.result, r.rest, r.jumps⟩
    | .event (.mappingStart q) :: rest =>
      checkTag q
      if depth = 0 then .error .tooDeep
      else
        let r ← d.entries (depth - 1) jumps rest n
        .ok ⟨.map (Fields.ofEntries r.result), r.rest, r.jumps⟩
    | _ => .error .missingContent
/-- Reads the items of a list. -/
def items (d : Document) (depth jumps : Nat) (steps : List Step) :
    Nat → Except Fault (Reading (List Value))
  | 0 => .error .tooDeep
  | n + 1 => do
    match steps with
    | .event .sequenceEnd :: rest => .ok ⟨[], rest, jumps⟩
    | steps =>
      let first ← d.value depth jumps steps n
      let more ← d.items depth first.jumps first.rest n
      .ok ⟨first.result :: more.result, more.rest, more.jumps⟩
/-- Reads the entries of a mapping. -/
def entries (d : Document) (depth jumps : Nat) (steps : List Step) :
    Nat → Except Fault (Reading (List (String × Value)))
  | 0 => .error .tooDeep
  | n + 1 => do
    match steps with
    | .event .mappingEnd :: rest => .ok ⟨[], rest, jumps⟩
    | steps =>
      let key ← d.key jumps steps n
      let v ← d.value depth key.jumps key.rest n
      let more ← d.entries depth v.jumps v.rest n
      .ok ⟨(key.result, v.result) :: more.result, more.rest, more.jumps⟩
def key (d : Document) (jumps : Nat) (steps : List Step) : Nat → Except Fault (Reading String)
  | 0 => .error .tooDeep
  | n + 1 => do
    match steps with
    | .alias number :: rest =>
      let jumps ← d.jump jumps
      let r ← d.key jumps (d.target number) n
      .ok ⟨r.result, rest, r.jumps⟩
    | .event (.scalar _ text _) :: rest => .ok ⟨text, rest, jumps⟩
    | _ => .error .collectionAsKey
end

end Document

def read (text : String) : Except Fault Value := do
  match ← events text with
  | [] => .ok .null
  | es =>
    let (steps, anchors) ← number ⟨[], []⟩ 0 es
    let d : Document := ⟨steps, anchors.places⟩
    let r ← d.value Document.depthLimit 0 steps (4 * (d.jumpLimit + 1) * (steps.length + 1))
    .ok r.result

end LintEngine.Yaml
