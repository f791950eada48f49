import LintEngine.Number.Decimal

namespace LintEngine.Number

structure Scaled where
  coefficient : Nat
  exponent : Int
deriving DecidableEq, Repr

namespace Scaled

def coefficientLimit : Nat := 0x10000000000000000

def append (n : Nat) : List Char → Nat × List Char
  | [] => (n, [])
  | c :: rest =>
    let more := 10 * n + (c.toNat - '0'.toNat)
    if more < coefficientLimit then append more rest else (n, c :: rest)

def ofDigits (whole fraction : List Char) (exponent : Int) : Scaled :=
  let (n, dropped) := append 0 whole
  let (n, unused) := append n fraction
  ⟨n, exponent + dropped.length - (fraction.length - unused.length : Nat)⟩

/-- Reads an unsigned numeral: digits, a point with digits after it if there is one, and an
optional exponent part. -/
def parse? (text : List Char) : Option Scaled :=
  let whole := text.takeWhile Char.isDigit
  let rest := text.dropWhile Char.isDigit
  if whole.isEmpty then none
  else
    match rest with
    | '.' :: more =>
      let fraction := more.takeWhile Char.isDigit
      if fraction.isEmpty then none
      else (Decimal.exponentPart? (more.dropWhile Char.isDigit)).map (ofDigits whole fraction)
    | rest => (Decimal.exponentPart? rest).map (ofDigits whole [])

def greatestPower : Nat := 308

def powerOfTen (n : Nat) : Float :=
  Float.ofScientific 1 false n

def divide (x : Float) (n : Nat) : Float :=
  if x == 0.0 then x
  else if n ≤ greatestPower then x / powerOfTen n
  else divide (x / powerOfTen greatestPower) (n - greatestPower)
termination_by n
decreasing_by simp only [greatestPower] at *; omega

def multiply? (x : Float) (n : Nat) : Option Float :=
  if n ≤ greatestPower then
    let product := x * powerOfTen n
    if product.isInf then none else some product
  else if x == 0.0 then some x
  else none

def toFloat? (s : Scaled) : Option Float :=
  let x := Float.ofScientific s.coefficient false 0
  match s.exponent with
  | .ofNat n => multiply? x n
  | .negSucc n => some (divide x (n + 1))

end Scaled

end LintEngine.Number
