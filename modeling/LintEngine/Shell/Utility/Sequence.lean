import LintEngine.Shell.Numeral
import LintEngine.Shell.Utility.Work

namespace LintEngine.Shell

open Number

namespace Sequence

structure Fixed where
  digits : Int
  places : Nat

def fixed? (text : Bytes) : Option Fixed :=
  let (negative, rest) := match text with
    | '-' :: rest => (true, rest)
    | '+' :: rest => (false, rest)
    | rest => (false, rest)
  let whole := rest.takeWhile Char.isDigit
  let after := rest.drop whole.length
  let fraction? := match after with
    | [] => some []
    | '.' :: fraction => if fraction.all Char.isDigit then some fraction else none
    | _ => none
  fraction?.bind fun fraction =>
    if whole.isEmpty && fraction.isEmpty then none
    else
      let magnitude : Int := ofDigits (whole ++ fraction)
      some ⟨if negative then -magnitude else magnitude, fraction.length⟩

def Fixed.inUnits (x : Fixed) (places : Nat) : Int :=
  x.digits * Nat.pow 10 (places - x.places)

def unitsText (places : Nat) (units : Int) : Bytes :=
  (if units < 0 then ['-'] else []) ++ Format.withPoint false places units.natAbs

def count (first step last : Int) : Nat :=
  if 0 < step then (if last < first then 0 else ((last - first) / step).toNat + 1)
  else if first < last then 0
  else ((first - last) / (-step)).toNat + 1

def zeroFilled (width : Nat) (text : Bytes) : Bytes :=
  match text with
  | '-' :: digits => '-' :: List.replicate (width - text.length) '0' ++ digits
  | digits => List.replicate (width - digits.length) '0' ++ digits

def layout? (text : Bytes) : Option (Bytes × Format × Char × Bytes) :=
  let lead := text.takeWhile (· ≠ '%')
  match text.drop lead.length with
  | '%' :: rest =>
    let (f, rest) := Format.plain.takeFlags rest
    let width := rest.takeWhile Char.isDigit
    let rest := rest.drop width.length
    let (precision, rest) := match rest with
      | '.' :: rest =>
        let digits := rest.takeWhile Char.isDigit
        (some (ofDigits digits), rest.drop digits.length)
      | rest => (none, rest)
    match rest with
    | c :: after =>
      if "aAeEfFgG".contains c && !after.contains '%' then
        some (lead, { f with width := ofDigits width, precision := precision }, c, after)
      else none
    | [] => none
  | _ => none

def readArguments : Nat → List Bytes → Except OptionFault Parsed
  | 0, _ => .ok ⟨[], []⟩
  | _ + 1, [] => .ok ⟨[], []⟩
  | n + 1, a :: rest =>
    let isNumber := match a with
      | '-' :: c :: _ => c.isDigit || c = '.'
      | _ => true
    if isNumber then .ok ⟨[], a :: rest⟩
    else
      let table : OptionTable := ⟨OptionTable.flags "w" ++ OptionTable.valued "sf",
        [("equal-width", 'w'), ("separator", 's'), ("format", 'f')]⟩
      let taken : Nat := match a with
        | ['-', 's'] | ['-', 'f'] => 2
        | _ => 1
      if a = ['-', '-'] then .ok ⟨[], rest⟩
      else do
        let here ← table.read ((a :: rest).take taken)
        let more ← readArguments n ((a :: rest).drop taken)
        .ok { more with options := here.options ++ more.options }

/-- Writes numbers in a row. -/
def seq : Utility := fun arguments => do
  let wrong (message : Bytes) : Task Nat := do
    Task.fault "seq" message
    Task.hint "seq"
    return 1
  match readArguments (arguments.length + 1) arguments with
  | .error f => wrong f.message
  | .ok p =>
    match p.operands.find? fun a => (fixed? a).isNone with
    | some a => wrong ("invalid floating point argument: ".toList ++ Task.inQuotes a)
    | none =>
      let one : Fixed := ⟨1, 0⟩
      let range? := match p.operands.filterMap fixed? with
        | [last] => some (one, one, last)
        | [first, last] => some (first, one, last)
        | [first, step, last] => some (first, step, last)
        | _ => none
      match range? with
      | none =>
        wrong (if p.operands.isEmpty then "missing operand".toList else "extra operand".toList)
      | some (first, step, last) =>
        if step.digits = 0 then wrong "invalid Zero increment value: '0'".toList
        else
          let shown := max first.places step.places
          let fine := max shown last.places
          let start := first.inUnits fine
          let stride := step.inUnits fine
          let size := count start stride (last.inUnits fine)
          let units := (List.range size).map fun (i : Nat) => start + stride * (i : Int)
          let inPlaces (u : Int) : Int := u / Nat.pow 10 (fine - shown)
          let texts := match (p.value? 'f').bind layout? with
            | some (lead, f, c, after) =>
              units.map fun u =>
                lead ++ f.double c (Float.ofInt u / Float.ofNat (Nat.pow 10 fine)) ++ after
            | none =>
              let plain := units.map fun u => unitsText shown (inPlaces u)
              if p.has 'w' then
                let width := ([first, last].map fun x =>
                  (unitsText shown (inPlaces (x.inUnits fine))).length).foldl max 0
                plain.map (zeroFilled width)
              else plain
          if (p.value? 'f').any fun f => (layout? f).isNone then
            wrong "format has no % directive".toList
          else
            let separator := (p.value? 's').getD ['\n']
            if !texts.isEmpty then Task.print (separator.intercalate texts ++ ['\n'])
            return 0

def endlessSize : Nat := 262144

def yes : Utility := fun arguments => do
  let line := (if arguments.isEmpty then ['y'] else [' '].intercalate arguments) ++ ['\n']
  Task.print (List.replicate (endlessSize / line.length + 1) line).flatten
  return 0

end Sequence

end LintEngine.Shell
