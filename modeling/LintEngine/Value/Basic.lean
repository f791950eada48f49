namespace LintEngine

inductive Value where
  | null
  | bool (b : Bool)
  | int (i : Int)
  | float (x : Float)
  | string (s : String)
  | array (items : List Value)
  | map (fields : List (String × Value))

instance : Inhabited Value := ⟨.null⟩

abbrev Fields := List (String × Value)

namespace Value

def kindName : Value → String
  | null => "null"
  | bool _ => "boolean"
  | int _ => "integer"
  | float _ => "float"
  | string _ => "string"
  | array _ => "array"
  | map _ => "map"

def isNull : Value → Bool
  | null => true
  | _ => false

def asBool? : Value → Option Bool
  | bool b => some b
  | _ => none

def asString? : Value → Option String
  | string s => some s
  | _ => none

def asMap? : Value → Option Fields
  | map fields => some fields
  | _ => none

def asSigned? : Value → Option Int
  | int i => if i < 0x8000000000000000 then some i else none
  | _ => none

def asUnsigned? : Value → Option Nat
  | int (.ofNat n) => some n
  | _ => none

def asFloat? : Value → Option Float
  | int (.ofNat n) => some (Float.ofNat n)
  | int (.negSucc n) => some (-Float.ofNat (n + 1))
  | float x => some x
  | _ => none

end Value

namespace Fields

def get? (fields : Fields) (key : String) : Option Value :=
  List.lookup key fields

def contains (fields : Fields) (key : String) : Bool :=
  (get? fields key).isSome

def keys (fields : Fields) : List String :=
  fields.map (·.1)

def insert : Fields → String → Value → Fields
  | [], key, value => [(key, value)]
  | (k, v) :: rest, key, value =>
    if k = key then (k, value) :: rest else (k, v) :: insert rest key value

def erase (fields : Fields) (key : String) : Fields :=
  fields.filter fun entry => entry.1 ≠ key

/-- The map with the given entries, where a repeated key keeps its first place and takes its last
value. -/
def ofEntries (entries : List (String × Value)) : Fields :=
  entries.foldl (fun fields entry => insert fields entry.1 entry.2) []

end Fields

namespace Value

mutual
/-- Equality in which the order of map entries does not count and doubles compare as numbers. -/
def same (a : Value) (b : Value) : Bool :=
  match a, b with
  | null, null => true
  | bool x, bool y => x == y
  | int x, int y => x == y
  | float x, float y => x == y
  | string x, string y => x == y
  | array xs, array ys => sameItems xs ys
  | map xs, map ys => xs.length == ys.length && sameFields xs ys
  | _, _ => false
termination_by structural a
/-- Pairwise equality of two lists. -/
def sameItems (as : List Value) (bs : List Value) : Bool :=
  match as, bs with
  | [], [] => true
  | a :: as, b :: bs => same a b && sameItems as bs
  | _, _ => false
termination_by structural as
def sameFields (as : List (String × Value)) (bs : List (String × Value)) : Bool :=
  match as with
  | [] => true
  | (k, v) :: rest =>
    (match Fields.get? bs k with
      | some w => same v w
      | none => false) && sameFields rest bs
termination_by structural as
end

end Value

end LintEngine
