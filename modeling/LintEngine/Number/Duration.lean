import LintEngine.Number.Shortest

namespace LintEngine.Number

structure Duration where
  nanoseconds : Nat
deriving DecidableEq, Repr

namespace Duration

def perSecond : Nat := 1000000000

def ofMilliseconds (ms : Nat) : Duration := ⟨ms * 1000000⟩

def roundQuotient (num den : Nat) : Nat :=
  let q := num / den
  let r := num % den
  if 2 * r > den || (2 * r == den && q % 2 == 1) then q + 1 else q

/-- The duration nearest to a finite, non-negative number of seconds, if it has fewer than
`2 ^ 64` of them. -/
def ofSeconds? (x : Float) : Option Duration :=
  let b := Binary.ofFloat x
  let ns := roundQuotient (b.mantissa <<< b.exponent.toNat * perSecond) (1 <<< (-b.exponent).toNat)
  if ns / perSecond < 0x10000000000000000 then some ⟨ns⟩ else none

def seconds (d : Duration) : Float :=
  Float.ofNat (d.nanoseconds / perSecond) +
    Float.ofNat (d.nanoseconds % perSecond) / Float.ofNat perSecond

def secondsLayout : Layout := ⟨none, ""⟩

def secondsText (d : Duration) : String :=
  secondsLayout.write d.seconds

/-- A count of units and its fraction, given as `rest` parts of `whole`, where `width` digits
make the fraction. -/
def unitText (count rest width : Nat) (unit : String) : String :=
  let digits := Nat.toDigits 10 rest
  let padded := List.replicate (width - digits.length) '0' ++ digits
  let fraction := (padded.reverse.dropWhile (· == '0')).reverse
  toString count ++ (if fraction.isEmpty then "" else "." ++ String.ofList fraction) ++ unit

def describe (d : Duration) : String :=
  let ns := d.nanoseconds
  if perSecond ≤ ns then unitText (ns / perSecond) (ns % perSecond) 9 "s"
  else if 1000000 ≤ ns then unitText (ns / 1000000) (ns % 1000000) 6 "ms"
  else if 1000 ≤ ns then unitText (ns / 1000) (ns % 1000) 3 "µs"
  else unitText ns 0 0 "ns"

end Duration

end LintEngine.Number
