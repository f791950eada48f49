import LintEngine.Shell.Arithmetic
import LintEngine.Shell.Utility.Work

namespace LintEngine.Shell

open Number

namespace Encode

def signs : Bytes :=
  "ABCDEFGHIJKLMNOPQRSTUVWXYZabcdefghijklmnopqrstuvwxyz0123456789+/".toList

def sign (n following : Nat) : Char := (signs[n / Nat.pow 64 following % 64]?).getD '='

def encode : Bytes → Bytes
  | a :: b :: c :: rest =>
    let n := a.toNat * 65536 + b.toNat * 256 + c.toNat
    sign n 3 :: sign n 2 :: sign n 1 :: sign n 0 :: encode rest
  | [a, b] =>
    let n := a.toNat * 65536 + b.toNat * 256
    [sign n 3, sign n 2, sign n 1, '=']
  | [a] =>
    let n := a.toNat * 65536
    [sign n 3, sign n 2, '=', '=']
  | [] => []

def decode : Bytes → Bytes × Bool
  | [] => ([], true)
  | [_] => ([], false)
  | [a, b] => ([a, b].mapM (signs.idxOf? ·)).elim ([], false) fun ds =>
      ([byteChar ((ds.foldl (fun n d => n * 64 + d) 0) / 16)], false)
  | [a, b, c] => ([a, b, c].mapM (signs.idxOf? ·)).elim ([], false) fun ds =>
      let n := ds.foldl (fun n d => n * 64 + d) 0
      ([byteChar (n / 1024), byteChar (n / 4)], false)
  | a :: b :: c :: d :: rest =>
    match signs.idxOf? a, signs.idxOf? b, signs.idxOf? c, signs.idxOf? d with
    | some w, some x, some y, some z =>
      let n := ((w * 64 + x) * 64 + y) * 64 + z
      let (more, good) := decode rest
      (byteChar (n / 65536) :: byteChar (n / 256) :: byteChar n :: more, good)
    | some w, some x, some y, none =>
      let n := (w * 64 + x) * 64 + y
      let (more, good) := decode rest
      if d = '=' then (byteChar (n / 1024) :: byteChar (n / 4) :: more, good)
      else ([byteChar (n / 1024), byteChar (n / 4)], false)
    | some w, some x, none, _ =>
      let n := w * 64 + x
      let (more, good) := decode rest
      if c = '=' && d = '=' then (byteChar (n / 16) :: more, good)
      else ([byteChar (n / 16)], false)
    | _, _, _, _ => ([], false)

def wrapped (width : Nat) : Nat → Bytes → Bytes
  | 0, _ => []
  | _ + 1, [] => []
  | n + 1, text => text.take width ++ '\n' :: wrapped width n (text.drop width)

def base64 : Utility := fun arguments =>
  Task.withOptions "base64" 1
      ⟨OptionTable.flags "di" ++ OptionTable.valued "w",
        [("decode", 'd'), ("ignore-garbage", 'i'), ("wrap", 'w')]⟩ arguments fun p => do
    let (text, good) ← Task.readAll "base64" (p.operands.take 1)
    if !good then return 1
    else if p.has 'd' then
      let kept := text.filter fun c => c ≠ '\n' && (!p.has 'i' || signs.contains c || c = '=')
      let (decoded, good) := decode kept
      Task.print decoded
      if !good then Task.fault "base64" "invalid input".toList
      return Task.status good
    else
      let width := ((p.value? 'w').map ofDigits).getD 76
      let encoded := encode text
      Task.print (if width = 0 then encoded else wrapped width (encoded.length + 1) encoded)
      return 0

structure Cell where
  size : Nat
  width : Nat
  text : Bytes → Bytes

def valueOf (bytes : Bytes) : Nat := bytes.foldr (fun c n => c.toNat + 256 * n) 0

def inDigits (base width n : Nat) : Bytes :=
  let digits := Nat.toDigits base n
  List.replicate (width - digits.length) '0' ++ digits

def charText (c : Char) : Bytes :=
  match c with
  | '\x00' => "\\0".toList
  | '\x07' => "\\a".toList
  | '\x08' => "\\b".toList
  | '\t' => "\\t".toList
  | '\n' => "\\n".toList
  | '\x0b' => "\\v".toList
  | '\x0c' => "\\f".toList
  | '\r' => "\\r".toList
  | c => if ' ' ≤ c && c ≤ '~' then [c] else inDigits 8 3 c.toNat

def decimalWidth (size : Nat) : Nat := (natText (Nat.pow 256 size - 1)).length

def octalWidth (size : Nat) : Nat := (8 * size + 2) / 3

def unit? (letter : Char) (size : Nat) : Option Cell :=
  let digits (base width : Nat) : Cell :=
    ⟨size, width + 1, fun bytes => inDigits base width (valueOf bytes)⟩
  match letter with
  | 'x' => some (digits 16 (2 * size))
  | 'o' => some (digits 8 (octalWidth size))
  | 'u' =>
    some ⟨size, decimalWidth size + 1, fun bytes => natText (valueOf bytes)⟩
  | 'd' =>
    some ⟨size, decimalWidth size + 2, fun bytes =>
      intBytes (Int.bmod (valueOf bytes) (Nat.pow 256 size))⟩
  | 'c' => some ⟨1, 4, fun bytes => bytes.flatMap charText⟩
  | _ => none

def units? : Bytes → Option Cell
  | [c] => unit? c (if c = 'c' then 1 else 4)
  | [c, d] =>
    match d with
    | 'C' => unit? c 1
    | 'S' => unit? c 2
    | 'I' => unit? c 4
    | 'L' => unit? c 8
    | d => if "1248".contains d && c ≠ 'c' then unit? c (ofDigits [d]) else none
  | _ => none

def unitsOf (u : Cell) : Nat → Bytes → Bytes
  | 0, _ => []
  | _ + 1, [] => []
  | n + 1, bytes =>
    rightAligned u.width (u.text (bytes.take u.size)) ++ unitsOf u n (bytes.drop u.size)

def chunks : Nat → Bytes → List Bytes
  | 0, _ => []
  | _ + 1, [] => []
  | n + 1, bytes => bytes.take 16 :: chunks n (bytes.drop 16)

/-- Lays out lines after their offsets; `previous` is the line before, and `skipping` tells whether
lines like it are being left out. -/
def dumpLines (offset : Nat → Bytes) (us : List Cell) (all : Bool) :
    Nat → Option Bytes → Bool → List Bytes → Bytes
  | position, _, _, [] =>
    let last := offset position
    if last.isEmpty then [] else last ++ ['\n']
  | position, previous, skipping, line :: rest =>
    let next := position + line.length
    if !all && previous = some line && line.length = 16 then
      (if skipping then [] else ['*', '\n']) ++ dumpLines offset us all next previous true rest
    else
      let lead := offset position
      let shown := us.zipIdx.flatMap fun (u, i) =>
        (if i = 0 then lead else List.replicate lead.length ' ') ++
          unitsOf u (line.length + 1) line ++ ['\n']
      shown ++ dumpLines offset us all next (some line) false rest

/-- Writes bytes as digits or characters. -/
def od : Utility := fun arguments =>
  Task.withOptions "od" 1
      ⟨OptionTable.flags "bcdosvx" ++ OptionTable.valued "AtNjw",
        [("address-radix", 'A'), ("format", 't'), ("read-bytes", 'N'), ("skip-bytes", 'j'),
          ("output-duplicates", 'v')]⟩ arguments fun p => do
    let (text, good) ← Task.readAll "od" p.operands
    let text := text.drop (((p.value? 'j').map ofDigits).getD 0)
    let text := match p.value? 'N' with
      | some n => text.take (ofDigits n)
      | none => text
    let asked := p.options.filterMap fun o =>
      match o with
      | ('b', _) => some (unit? 'o' 1)
      | ('c', _) => some (unit? 'c' 1)
      | ('d', _) => some (unit? 'u' 2)
      | ('o', _) => some (unit? 'o' 2)
      | ('s', _) => some (unit? 'd' 2)
      | ('x', _) => some (unit? 'x' 2)
      | ('t', some type) => some (units? type)
      | _ => none
    let asked := if asked.isEmpty then [unit? 'o' 2] else asked
    match asked.mapM id with
    | none =>
      Task.fault "od" "invalid type string".toList
      return 1
    | some us =>
      let offset : Nat → Bytes := match p.value? 'A' with
        | some ['n'] => fun _ => []
        | some ['d'] => inDigits 10 7
        | some ['x'] => inDigits 16 6
        | _ => inDigits 8 7
      let skipped := ((p.value? 'j').map ofDigits).getD 0
      Task.print
        (dumpLines offset us (p.has 'v') skipped none false (chunks (text.length + 1) text))
      return Task.status good

end Encode

end LintEngine.Shell
