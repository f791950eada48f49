import LintEngine.Number.Duration
import LintEngine.Shell.Bytes

namespace LintEngine.Shell

open Number

structure Format where
  toLeft : Bool
  plus : Bool
  blank : Bool
  alternate : Bool
  zeros : Bool
  width : Nat
  precision : Option Nat
deriving DecidableEq

namespace Format

def plain : Format := ⟨false, false, false, false, false, 0, none⟩

def pad (f : Format) (text : Bytes) : Bytes :=
  if f.toLeft then leftAligned f.width text else rightAligned f.width text

def padNumber (f : Format) (zeros : Bool) (sign digits : Bytes) : Bytes :=
  let text := sign ++ digits
  if zeros && !f.toLeft then
    sign ++ List.replicate (f.width - text.length) '0' ++ digits
  else f.pad text

def string (f : Format) (text : Bytes) : Bytes :=
  f.pad (match f.precision with
    | some n => text.take n
    | none => text)

def signOf (f : Format) (negative : Bool) : Bytes :=
  if negative then ['-'] else if f.plus then ['+'] else if f.blank then [' '] else []

def leastDigits (f : Format) (digits : Bytes) : Bytes :=
  match f.precision with
  | some 0 => if digits = ['0'] then [] else digits
  | some n => List.replicate (n - digits.length) '0' ++ digits
  | none => digits

def signed (f : Format) (i : Int) : Bytes :=
  f.padNumber (f.zeros && f.precision.isNone) (f.signOf (i < 0))
    (f.leastDigits (natText i.natAbs))

/-- A number of 64 bits in some base; `mark` stands before a number that is not zero, if marks are
asked for. -/
def unsigned (f : Format) (base : Nat) (upper : Bool) (mark : Bytes) (i : Int) : Bytes :=
  let n := (i % 0x10000000000000000).toNat
  let digits := f.leastDigits (Nat.toDigits base n)
  let digits := if upper then digits.map Char.toUpper else digits
  let digits := if f.alternate && base = 8 && digits.head? ≠ some '0' then '0' :: digits else digits
  f.padNumber (f.zeros && f.precision.isNone)
    (if f.alternate && n ≠ 0 && base = 16 then mark else []) digits

def integer (f : Format) (conversion : Char) (i : Int) : Bytes :=
  match conversion with
  | 'u' => f.unsigned 10 false [] i
  | 'o' => f.unsigned 8 false [] i
  | 'x' => f.unsigned 16 false ['0', 'x'] i
  | 'X' => f.unsigned 16 true ['0', 'X'] i
  | _ => f.signed i

def scaled (b : Binary) (places : Int) : Nat :=
  Duration.roundQuotient (b.mantissa <<< b.exponent.toNat * Nat.pow 10 places.toNat)
    (Nat.pow 10 (-places).toNat <<< (-b.exponent).toNat)

def withPoint (keepPoint : Bool) (places : Nat) (n : Nat) : Bytes :=
  let digits := natText n
  let digits := List.replicate (places + 1 - digits.length) '0' ++ digits
  let whole := digits.take (digits.length - places)
  if places = 0 && !keepPoint then whole else whole ++ '.' :: digits.drop whole.length

def positional (keepPoint : Bool) (places : Nat) (b : Binary) : Bytes :=
  withPoint keepPoint places (scaled b places)

/-- The decimal exponent of a magnitude rounded to so many digits after the first, and these
digits as a number. -/
def normalized (places : Nat) (b : Binary) : Int × Nat :=
  if b.mantissa = 0 then (0, 0)
  else
    let e := b.decimalPlaces - 1
    let n := scaled b (places - e)
    if Nat.pow 10 (places + 1) ≤ n then (e + 1, Nat.pow 10 places) else (e, n)

def exponentText (mark : Char) (e : Int) : Bytes :=
  let digits := natText e.natAbs
  mark :: (if e < 0 then '-' else '+') :: List.replicate (2 - digits.length) '0' ++ digits

def scientific (keepPoint : Bool) (mark : Char) (places : Nat) (b : Binary) : Bytes :=
  let (e, n) := normalized places b
  withPoint keepPoint places n ++ exponentText mark e

def dropZeros (digits : Bytes) : Bytes :=
  if digits.contains '.' then dropEndWhile (· = '.') (dropEndWhile (· = '0') digits) else digits

def general (alternate : Bool) (mark : Char) (precision : Nat) (b : Binary) : Bytes :=
  let precision := max precision 1
  let (e, n) := normalized (precision - 1) b
  if e < -4 || e ≥ precision then
    let digits := withPoint alternate (precision - 1) n
    (if alternate then digits else dropZeros digits) ++ exponentText mark e
  else
    let digits := positional alternate (precision - 1 - e).toNat b
    if alternate then digits else dropZeros digits

def hexadecimal (precision : Option Nat) (b : Binary) : Bytes :=
  if b.mantissa = 0 then
    let zeros := List.replicate (precision.getD 0) '0'
    '0' :: (if zeros.isEmpty then [] else '.' :: zeros) ++ ['p', '+', '0']
  else
    let shift := 52 - b.mantissa.log2
    let mantissa := b.mantissa <<< shift
    let e := b.exponent - shift + 52
    let (whole, fraction, places) := match precision with
      | some p =>
        if p < 13 then
          let n := Duration.roundQuotient mantissa (1 <<< (4 * (13 - p)))
          (n >>> (4 * p), n % 1 <<< (4 * p), p)
        else (mantissa >>> 52, (mantissa % 0x10000000000000) <<< (4 * (p - 13)), p)
      | none => (mantissa >>> 52, mantissa % 0x10000000000000, 13)
    let digits := Nat.toDigits 16 fraction
    let digits := List.replicate (places - digits.length) '0' ++ digits
    let digits := if places = 0 then [] else
      if precision.isNone then dropEndWhile (· = '0') digits else digits
    natText whole ++ (if digits.isEmpty then [] else '.' :: digits) ++
      'p' :: (if e < 0 then '-' else '+') :: natText e.natAbs

def double (f : Format) (conversion : Char) (x : Float) : Bytes :=
  let upper := conversion.isUpper
  let cased (text : Bytes) := if upper then text.map Char.toUpper else text
  let negative := x.toBits.toNat >>> 63 = 1
  if x.isNaN then f.pad (f.signOf negative ++ cased "nan".toList)
  else if x.isInf then f.pad (f.signOf negative ++ cased "inf".toList)
  else
    let b := Binary.ofFloat x
    let precision := f.precision.getD 6
    match conversion.toLower with
    | 'f' => f.padNumber f.zeros (f.signOf negative) (positional f.alternate precision b)
    | 'e' =>
      f.padNumber f.zeros (f.signOf negative) (cased (scientific f.alternate 'e' precision b))
    | 'g' =>
      f.padNumber f.zeros (f.signOf negative) (cased (general f.alternate 'e' precision b))
    | _ =>
      f.padNumber f.zeros (f.signOf negative ++ cased ['0', 'x'])
        (cased (hexadecimal f.precision b))

end Format

def Format.takeFlags : Format → Bytes → Format × Bytes
  | f, '-' :: rest => takeFlags { f with toLeft := true } rest
  | f, '+' :: rest => takeFlags { f with plus := true } rest
  | f, ' ' :: rest => takeFlags { f with blank := true } rest
  | f, '#' :: rest => takeFlags { f with alternate := true } rest
  | f, '0' :: rest => takeFlags { f with zeros := true } rest
  | f, '\'' :: rest => takeFlags f rest
  | f, rest => (f, rest)

def takeUnsignedDecimal? (text : Bytes) : Option (Decimal × Bytes) :=
  let whole := text.takeWhile Char.isDigit
  let rest := text.drop whole.length
  let (fraction, rest) := match rest with
    | '.' :: more =>
      let digits := more.takeWhile Char.isDigit
      (digits, more.drop digits.length)
    | rest => ([], rest)
  if whole.isEmpty && fraction.isEmpty then none
  else
    let (e, rest) := match rest with
      | mark :: more =>
        if mark = 'e' || mark = 'E' then
          let (negative, digits) := match more with
            | '-' :: digits => (true, digits)
            | '+' :: digits => (false, digits)
            | digits => (false, digits)
          let found := digits.takeWhile Char.isDigit
          if found.isEmpty then ((0 : Int), rest)
          else
            let e : Int := ofDigits found
            (if negative then -e else e, digits.drop found.length)
        else (0, rest)
      | [] => (0, rest)
    some (⟨false, ofDigits (whole ++ fraction), e - fraction.length⟩, rest)

def takeHexadecimal? (text : Bytes) : Option (Float × Bytes) :=
  let isHex := fun c => (hexValue? c).isSome
  let whole := text.takeWhile isHex
  let rest := text.drop whole.length
  let (fraction, rest) := match rest with
    | '.' :: more =>
      let digits := more.takeWhile isHex
      (digits, more.drop digits.length)
    | rest => ([], rest)
  if whole.isEmpty && fraction.isEmpty then none
  else
    let (e, rest) := match rest with
      | mark :: more =>
        if mark = 'p' || mark = 'P' then
          let (negative, digits) := match more with
            | '-' :: digits => (true, digits)
            | '+' :: digits => (false, digits)
            | digits => (false, digits)
          let found := digits.takeWhile Char.isDigit
          if found.isEmpty then ((0 : Int), rest)
          else
            let e : Int := ofDigits found
            (if negative then -e else e, digits.drop found.length)
        else (0, rest)
      | [] => (0, rest)
    let n := (ofRadix? 16 (whole ++ fraction)).getD 0
    some ((Float.ofNat n).scaleB (e - 4 * fraction.length), rest)

def startsWithWord (word : String) (text : Bytes) : Bool :=
  (text.take word.length).map Char.toLower = word.toList

def takeDouble? (text : Bytes) : Option (Float × Bytes) :=
  let text := text.dropWhile isSpace
  let (negative, digits) := match text with
    | '-' :: rest => (true, rest)
    | '+' :: rest => (false, rest)
    | text => (false, text)
  let signed (x : Float) := if negative then -x else x
  if startsWithWord "infinity" digits then some (signed (1.0 / 0.0), digits.drop 8)
  else if startsWithWord "inf" digits then some (signed (1.0 / 0.0), digits.drop 3)
  else if startsWithWord "nan" digits then some (signed (0.0 / 0.0), digits.drop 3)
  else
    let hex := if startsWithWord "0x" digits then takeHexadecimal? (digits.drop 2) else none
    match hex with
    | some (x, rest) => some (signed x, rest)
    | none =>
      (takeUnsignedDecimal? digits).map fun (d, rest) => (signed d.toFloat, rest)

end LintEngine.Shell
