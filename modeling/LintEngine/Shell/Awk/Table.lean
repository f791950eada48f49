import Std.Data.HashMap.Basic
import LintEngine.Shell.Bytes

namespace LintEngine.Shell.Awk

open Number

inductive Key where
  | text (bytes : Bytes)
  | number (i : Int)
deriving DecidableEq

def Key.bytes : Key → Bytes
  | text bytes => bytes
  | number i => intBytes i

structure Table (α : Type) where
  cells : Std.HashMap String α
  listed : Bool
  named : Bool
  texts : Array (List Bytes)
  numbers : Array (List Int)

namespace Table

variable {α : Type}

def firstRows : Nat := 64

def rowLimit : Nat := 12

def rows (β : Type) (n : Nat) : Array (List β) := Array.replicate n []

def empty : Table α := ⟨∅, false, false, rows Bytes firstRows, rows Int firstRows⟩

instance : Inhabited (Table α) := ⟨empty⟩

def size (t : Table α) : Nat := t.cells.size

def hash (text : Bytes) : Nat :=
  (text.foldl (fun (h : UInt32) c => (h ^^^ UInt32.ofNat c.toNat) * 16777619) 2166136261).toNat

def textRow (t : Table α) (text : Bytes) : Nat := hash text % t.texts.size

def numberRow (t : Table α) (i : Int) : Nat := (i % t.numbers.size).toNat

def rowsFor (keys : Nat) : Nat → Nat → Nat
  | 0, count => count
  | n + 1, count => if count * rowLimit < keys then rowsFor keys n (2 * count) else count

def ofList (values : List α) : Table α :=
  if values.isEmpty then empty
  else
    let cells := (values.zipIdx 1).foldl
      (fun cells (v, i) => cells.insert (String.ofList (natText i)) v) ∅
    { (empty : Table α) with cells := cells, listed := true }

def unlist (t : Table α) : Table α :=
  if t.listed then
    let count := rowsFor t.size t.size firstRows
    let numbers := (List.range t.size).foldl
      (fun numbers i => numbers.modify ((i + 1) % count) (((i + 1 : Nat) : Int) :: ·))
      (rows Int count)
    { t with listed := false, named := false, texts := rows Bytes count, numbers := numbers }
  else t

def nameAll (t : Table α) : Table α :=
  let t := t.unlist
  if t.named then t
  else
    let texts := t.numbers.foldl (fun texts row => row.foldl (fun texts i =>
      let text := intBytes i
      texts.modify (hash text % t.texts.size) (text :: ·)) texts) t.texts
    { t with texts := texts, named := true }

def double (t : Table α) : Table α :=
  let count := 2 * t.texts.size
  { t with
    texts := split t.texts fun text => hash text % count
    numbers := split t.numbers fun i => (i % count).toNat }
where
  split {β : Type} (rows : Array (List β)) (row : β → Nat) : Array (List β) :=
    rows.map (·.filter fun k => row k < rows.size) ++
      rows.map (·.filter fun k => rows.size ≤ row k)

def grow (t : Table α) : Table α :=
  if t.texts.size * rowLimit < t.size + 1 then t.double else t

def textToFront (t : Table α) (text : Bytes) : Table α :=
  { t with texts := t.texts.modify (t.textRow text) fun row => text :: row.erase text }

def numberToFront (t : Table α) (i : Int) : Table α :=
  { t with numbers := t.numbers.modify (t.numberRow i) fun row => i :: row.erase i }

/-- Looks for a key, and makes a cell for it if there is none and a value is given. Tells the value
that the key has then. -/
def visit (t : Table α) (key : Key) (default : Option α) : Table α × Option α :=
  let name := String.ofList key.bytes
  let found := t.cells[name]?
  let isNew := found.isNone
  match key with
  | .number i =>
    if t.listed && found.isSome then (t, found)
    else if isNew && default.isNone then
      ((if t.listed then t.unlist else t), none)
    else
      let t := t.unlist
      let isNumbered := (t.numbers[t.numberRow i]?).any (·.contains i)
      let t := if isNew then t.grow else t
      let t := if t.named && !isNumbered then t.textToFront key.bytes else t
      let t := t.numberToFront i
      match found, default with
      | none, some v => ({ t with cells := t.cells.insert name v }, default)
      | _, _ => (t, found)
  | .text bytes =>
    if t.cells.isEmpty && default.isNone then (t, none)
    else
      let t := t.nameAll
      match found, default with
      | some _, _ => (t.textToFront bytes, found)
      | none, some v =>
        let t := t.grow.textToFront bytes
        ({ t with cells := t.cells.insert name v }, default)
      | none, none => (t, none)

def contains (t : Table α) (key : Key) : Table α × Bool :=
  let (t, found) := t.visit key none
  (t, found.isSome)

def insert (t : Table α) (key : Key) (v : α) : Table α :=
  let (t, _) := t.visit key (some v)
  { t with cells := t.cells.insert (String.ofList key.bytes) v }

def withoutNumber (text : Bytes) (row : List Int) : List Int :=
  row.filter fun i => intBytes i ≠ text

def erase (t : Table α) (key : Key) : Table α :=
  let (visited, found) := t.visit key none
  if found.isNone then
    match key with
    | .number _ => if t.listed then t else visited
    | .text _ => visited
  else
    let t := visited
    let t := t.unlist
    let text := key.bytes
    let cells := t.cells.erase (String.ofList text)
    if cells.isEmpty then empty
    else
      let texts := t.texts.modify (t.textRow text) (·.erase text)
      { t with cells := cells, texts := texts, numbers := t.numbers.map (withoutNumber text) }

def keys (t : Table α) : Table α × List Bytes :=
  if t.cells.isEmpty then (t, [])
  else
    let t := t.nameAll
    (t, t.texts.toList.flatten)

end Table

end LintEngine.Shell.Awk
