import LintEngine.Shell.Numeral

namespace LintEngine.Shell.Awk

open Number

inductive Value where
  | unset
  | number (x : Float)
  | text (bytes : Bytes)
  | given (bytes : Bytes)

namespace Value

instance : Inhabited Value := ⟨unset⟩

def ofNat (n : Nat) : Value := number (Float.ofNat n)

def ofInt (i : Int) : Value := number (Float.ofInt i)

def ofBool (b : Bool) : Value := number (if b then 1.0 else 0.0)

def leadingNumber (bytes : Bytes) : Float :=
  ((takeDouble? bytes).map (·.1)).getD 0.0

def wholeNumber? (bytes : Bytes) : Option Float :=
  match takeDouble? bytes with
  | some (x, rest) => if rest.all isSpace then some x else none
  | none => none

def toNumber : Value → Float
  | unset => 0.0
  | number x => x
  | text bytes => leadingNumber bytes
  | given bytes => leadingNumber bytes

def truncated (x : Float) : Int :=
  if x.isNaN || x.isInf then 0
  else
    let b := Binary.ofFloat x
    let n := b.mantissa <<< b.exponent.toNat >>> (-b.exponent).toNat
    if x < 0.0 then -(n : Int) else n

def toInteger (x : Float) : Int :=
  if x.isNaN then -0x8000000000000000
  else if x ≥ 18446744073709551616.0 then 0xffffffffffffffff
  else if x < -9223372036854775808.0 then -0x7fffffffffffffff
  else truncated x

def toUnsigned (x : Float) : Int :=
  if x.isNaN then 0x8000000000000000
  else if x ≥ 18446744073709551616.0 then 0xffffffffffffffff
  else if x ≤ -18446744073709551616.0 then 1
  else truncated x

def isWhole (x : Float) : Bool :=
  !x.isNaN && !x.isInf && x.floor == x && -9223372036854775808.0 ≤ x && x ≤ 18446744073709551616.0

def doubleText (f : Format) (conversion : Char) (x : Float) : Bytes :=
  if x.isNaN then f.pad "-nan".toList else f.double conversion x

def fractionText (format : Bytes) (x : Float) : Bytes :=
  let before := format.takeWhile (· ≠ '%')
  match format.drop before.length with
  | [] => before
  | _ :: rest =>
    let (f, rest) := Format.plain.takeFlags rest
    let width := rest.takeWhile Char.isDigit
    let rest := rest.drop width.length
    let (precision, rest) := match rest with
      | '.' :: rest =>
        let digits := rest.takeWhile Char.isDigit
        (some (ofDigits digits), rest.drop digits.length)
      | rest => (none, rest)
    let f := { f with width := ofDigits width, precision := precision }
    match rest with
    | [] => before
    | c :: after =>
      before ++
        (if "diouxX".contains c then f.integer c (toInteger x) else doubleText f c x) ++ after

def numberText (format : Bytes) (x : Float) : Bytes :=
  if isWhole x then intBytes (toInteger x) else fractionText format x

def toText (format : Bytes) : Value → Bytes
  | unset => []
  | number x => numberText format x
  | text bytes => bytes
  | given bytes => bytes

def isTrue : Value → Bool
  | unset => false
  | number x => x != 0.0
  | text bytes => !bytes.isEmpty
  | given bytes =>
    match wholeNumber? bytes with
    | some x => x != 0.0
    | none => !bytes.isEmpty

def numeric? : Value → Option Float
  | unset => some 0.0
  | number x => some x
  | text _ => none
  | given bytes => wholeNumber? bytes

def compareNumbers (a b : Float) : Ordering :=
  if a == b then .eq else if a < b then .lt else .gt

def compare (format : Bytes) (a b : Value) : Ordering :=
  match a.numeric?, b.numeric? with
  | some x, some y => compareNumbers x y
  | _, _ => compareBytes (a.toText format) (b.toText format)

end Value

inductive FormatFault where
  | invalid (number : Nat)
  | missing

def takeSize (values : List Value) (text : Bytes) :
    Option (Option Int × List Value × Bytes) :=
  match text with
  | '*' :: rest =>
    match values with
    | v :: values => some (some (Value.toInteger v.toNumber), values, rest)
    | [] => none
  | text =>
    let digits := text.takeWhile Char.isDigit
    some (if digits.isEmpty then none else some (ofDigits digits), values,
      text.drop digits.length)

def placeText? (number : Bytes) (f : Format) (conversion : Char) (v : Value) : Option Bytes :=
  match conversion with
  | 's' => some (f.string (v.toText number))
  | 'c' =>
    some (match v with
    | .number x => f.pad [byteChar ((Value.truncated x) % 256).toNat]
    | v =>
      match v.toText number with
      | c :: _ => f.string [c]
      | [] => f.pad ['\x00'])
  | c =>
    if c = 'd' || c = 'i' then some (f.integer 'd' (Value.toInteger v.toNumber))
    else if "ouxX".contains c then some (f.integer c (Value.toUnsigned v.toNumber))
    else if "eEfgG".contains c then some (Value.doubleText f c v.toNumber)
    else none

/-- Fills in a format with values; `number` is the format of numbers in texts. Gives also what was
written before something that is wrong. The first number bounds the length of the format, the
second one counts the places. -/
def fillIn (number : Bytes) : Nat → Nat → Bytes → List Value → Bytes × Option FormatFault
  | 0, _, _, _ => ([], none)
  | _ + 1, _, [], _ => ([], none)
  | n + 1, count, '%' :: '%' :: rest, values =>
    let (more, fault) := fillIn number n count rest values
    ('%' :: more, fault)
  | n + 1, count, '%' :: rest, values =>
    let (f, rest) := Format.plain.takeFlags rest
    match takeSize values rest with
    | none => ([], some .missing)
    | some (width, values, rest) =>
      let precision : Option (Option Int × List Value × Bytes) := match rest with
        | '.' :: rest =>
          (takeSize values rest).map fun (p, values, rest) => (some (p.getD 0), values, rest)
        | rest => some (none, values, rest)
      match precision with
      | none => ([], some .missing)
      | some (precision, values, rest) =>
        let f := { f with
          width := (width.getD 0).natAbs
          toLeft := f.toLeft || (width.getD 0) < 0
          precision := precision.bind fun p => if p < 0 then none else some p.toNat }
        let sizes := rest.takeWhile fun c => c = 'h' || c = 'l'
        match rest.drop sizes.length with
        | [] => ([], some (.invalid count))
        | c :: rest =>
          let known := if sizes.isEmpty then "dicouxXeEfgGs" else "dioxXu"
          if !known.contains c then ([], some (.invalid count))
          else
            match values with
            | [] => ([], some .missing)
            | v :: values =>
              let (more, fault) := fillIn number n (count + 1) rest values
              ((placeText? number f c v).getD [] ++ more, fault)
  | n + 1, count, c :: rest, values =>
    let (more, fault) := fillIn number n count rest values
    (c :: more, fault)

end LintEngine.Shell.Awk
