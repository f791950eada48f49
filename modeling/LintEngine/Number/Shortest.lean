namespace LintEngine.Number

/-- The number `± mantissa * 2 ^ exponent`; `atPower` marks the least mantissa of its binade, below
which doubles stand twice as close. -/
structure Binary where
  negative : Bool
  mantissa : Nat
  exponent : Int
  atPower : Bool
deriving DecidableEq, Repr

def Binary.ofFloat (x : Float) : Binary :=
  let bits := x.toBits.toNat
  let negative := bits >>> 63 % 2 == 1
  let scale : Nat := bits >>> 52 % 0x800
  let fraction := bits % 0x10000000000000
  if scale = 0 then ⟨negative, fraction, -1074, false⟩
  else ⟨negative, fraction + 0x10000000000000, Int.ofNat scale - 1075, fraction == 0 && scale > 1⟩

structure Digits where
  digits : Nat
  exponent : Int
deriving DecidableEq, Repr

namespace Binary

def atLeastTenTo (b : Binary) (k : Int) : Bool :=
  Nat.pow 10 k.toNat <<< (-b.exponent).toNat ≤
    b.mantissa <<< b.exponent.toNat * Nat.pow 10 (-k).toNat

def decimalPlaces (b : Binary) : Int :=
  let guess := ((b.mantissa.log2 : Int) + b.exponent) * 30103 / 100000
  if b.atLeastTenTo (guess + 1) then guess + 2
  else if b.atLeastTenTo guess then guess + 1
  else guess

/-- Whether `d * 10 ^ e` reads back as this double: it lies between the two halfway points, where
a halfway point itself belongs to the even mantissa. -/
def readsBack (b : Binary) (d : Nat) (e : Int) : Bool :=
  let unit := Nat.pow 10 (-e).toNat <<< b.exponent.toNat
  let point := (4 * d * Nat.pow 10 e.toNat) <<< (-b.exponent).toNat
  let low := (4 * b.mantissa - (if b.atPower then 1 else 2)) * unit
  let high := (4 * b.mantissa + 2) * unit
  if b.mantissa % 2 = 0 then low ≤ point && point ≤ high
  else low < point && point < high

/-- The two neighbours of the magnitude on the grid of multiples of `10 ^ e`: the one at or below
it, and whether the one above is strictly nearer. -/
def onGrid (b : Binary) (e : Int) : Nat × Bool :=
  let value := b.mantissa <<< b.exponent.toNat * Nat.pow 10 (-e).toNat
  let step := Nat.pow 10 e.toNat <<< (-b.exponent).toNat
  let below := value / step
  let rest := value % step
  (below, 2 * rest > step || (2 * rest == step && below % 2 == 1))

def withDigits? (b : Binary) (places : Int) (n : Nat) : Option Digits :=
  let e := places - n
  let (below, nearerAbove) := b.onGrid e
  let first := if nearerAbove then below + 1 else below
  let second := if nearerAbove then below else below + 1
  if b.readsBack first e then some ⟨first, e⟩
  else if b.readsBack second e then some ⟨second, e⟩
  else none

def stripZeros : Nat → Digits → Digits
  | 0, d => d
  | n + 1, d =>
    if d.digits ≠ 0 ∧ d.digits % 10 = 0 then stripZeros n ⟨d.digits / 10, d.exponent + 1⟩ else d

def shortest (b : Binary) : Digits :=
  if b.mantissa = 0 then ⟨0, 0⟩
  else
    let places := b.decimalPlaces
    let found := (List.range 17).findSome? fun n => b.withDigits? places (n + 1)
    stripZeros 20 (found.getD ⟨(b.onGrid (places - 17)).1, places - 17⟩)

end Binary

structure Layout where
  positional : Option (Int × Int)
  wholeSuffix : String

namespace Layout

def writePositional (l : Layout) (digits : List Char) (e : Int) : String :=
  if e < 0 then
    "0." ++ String.ofList (List.replicate (-e - 1).toNat '0' ++ digits)
  else
    let n := e.toNat + 1
    if digits.length ≤ n then
      String.ofList (digits ++ List.replicate (n - digits.length) '0') ++ l.wholeSuffix
    else String.ofList (digits.take n) ++ "." ++ String.ofList (digits.drop n)

def writeScientific (digits : List Char) (e : Int) : String :=
  let fraction := digits.drop 1
  String.ofList (digits.take 1) ++
    (if fraction.isEmpty then "" else "." ++ String.ofList fraction) ++
    "e" ++ (if e < 0 then "-" else "+") ++ toString e.natAbs

def write (l : Layout) (x : Float) : String :=
  let b := Binary.ofFloat x
  let d := b.shortest
  let digits := Nat.toDigits 10 d.digits
  let e := (digits.length : Int) - 1 + d.exponent
  let body :=
    match l.positional with
    | none => l.writePositional digits e
    | some (low, high) =>
      if b.mantissa = 0 || (low ≤ e && e < high) then l.writePositional digits e
      else writeScientific digits e
  if b.negative then "-" ++ body else body

end Layout

end LintEngine.Number
