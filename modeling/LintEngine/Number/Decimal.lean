namespace LintEngine.Number

structure Decimal where
  negative : Bool
  coefficient : Nat
  exponent : Int
deriving DecidableEq, Repr

def ofDigits (digits : List Char) : Nat :=
  digits.foldl (fun n c => 10 * n + (c.toNat - '0'.toNat)) 0

def hexValue? (c : Char) : Option Nat :=
  if '0' ≤ c && c ≤ '9' then some (c.toNat - '0'.toNat)
  else if 'a' ≤ c && c ≤ 'f' then some (c.toNat - 'a'.toNat + 10)
  else if 'A' ≤ c && c ≤ 'F' then some (c.toNat - 'A'.toNat + 10)
  else none

def ofRadix? (base : Nat) (digits : List Char) : Option Nat :=
  if digits.isEmpty then none
  else
    digits.foldlM (fun n c => do
      let d ← hexValue? c
      if d < base then some (base * n + d) else none) 0

def intText (i : Int) : String :=
  match i with
  | .ofNat n => toString n
  | .negSucc n => "-" ++ toString (n + 1)

namespace Decimal

def exponentPart? : List Char → Option Int
  | [] => some 0
  | mark :: rest =>
    if mark = 'e' || mark = 'E' then
      match rest with
      | '-' :: digits => if digits.isEmpty || !digits.all Char.isDigit then none
          else some (-(ofDigits digits : Int))
      | '+' :: digits => if digits.isEmpty || !digits.all Char.isDigit then none
          else some (ofDigits digits)
      | digits => if digits.isEmpty || !digits.all Char.isDigit then none
          else some (ofDigits digits)
    else none

/-- Reads an unsigned numeral: digits with at most one point among or beside them, at least one
digit, and an optional exponent part. -/
def unsigned? (negative : Bool) (text : List Char) : Option Decimal :=
  let whole := text.takeWhile Char.isDigit
  let rest := text.dropWhile Char.isDigit
  let (fraction, rest) := match rest with
    | '.' :: more => (more.takeWhile Char.isDigit, more.dropWhile Char.isDigit)
    | rest => ([], rest)
  if whole.isEmpty && fraction.isEmpty then none
  else do
    let e ← exponentPart? rest
    some ⟨negative, ofDigits (whole ++ fraction), e - fraction.length⟩

def parse? : List Char → Option Decimal
  | '-' :: rest => unsigned? true rest
  | '+' :: rest => unsigned? false rest
  | text => unsigned? false text

def toFloat (d : Decimal) : Float :=
  let places := ((Nat.toDigits 10 d.coefficient).length : Int) + d.exponent
  let magnitude :=
    if d.coefficient = 0 || places < -330 then 0.0
    else if places > 310 then 1.0 / 0.0
    else if d.exponent < 0 then Float.ofScientific d.coefficient true d.exponent.natAbs
    else Float.ofScientific d.coefficient false d.exponent.natAbs
  if d.negative then -magnitude else magnitude

end Decimal

end LintEngine.Number
