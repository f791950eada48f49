import LintEngine.Shell.Arithmetic
import LintEngine.Shell.Numeral
import LintEngine.Shell.Utility.Work

namespace LintEngine.Shell

open Number

/-- Reads the escapes of a text; gives up at the one that ends all output. The number bounds them.
-/
def unescape : Nat → Bytes → Bytes × Bool
  | 0, text => (text, false)
  | _ + 1, [] => ([], false)
  | n + 1, '\\' :: c :: rest =>
    let continued (d : Bytes) (rest : Bytes) :=
      let (more, ended) := unescape n rest
      (d ++ more, ended)
    if c = 'c' then ([], true)
    else if isOctal c then
      let (value, rest) := takeOctal (if c = '0' then 4 else 3) (c :: rest)
      continued [byteChar value] rest
    else if c = 'e' then continued ['\x1b'] rest
    else
      match controlChar? c with
      | some d => continued [d] rest
      | none => continued ['\\', c] rest
  | n + 1, c :: rest =>
    let (more, ended) := unescape n rest
    (c :: more, ended)

def echoText (arguments : List Bytes) : Bytes :=
  let (feed, words) := match arguments with
    | ['-', 'n'] :: words => ([], words)
    | words => (['\n'], words)
  let text := [' '].intercalate words
  let (output, ended) := unescape (text.length + 1) text
  if ended then output else output ++ feed

inductive FormatPiece where
  | text (bytes : Bytes)
  | place (f : Format) (widthGiven precisionGiven : Bool) (conversion : Char)
  | invalid (bytes : Bytes)
  | missing

def readPlace (text : Bytes) : FormatPiece × Bytes :=
  let (f, rest) := Format.plain.takeFlags text
  let (f, widthGiven, rest) := match rest with
    | '*' :: rest => (f, true, rest)
    | rest =>
      let digits := rest.takeWhile Char.isDigit
      ({ f with width := ofDigits digits }, false, rest.drop digits.length)
  let (f, precisionGiven, rest) := match rest with
    | '.' :: '*' :: rest => (f, true, rest)
    | '.' :: rest =>
      let digits := rest.takeWhile Char.isDigit
      ({ f with precision := some (ofDigits digits) }, false, rest.drop digits.length)
    | rest => (f, false, rest)
  match rest with
  | [] => (.missing, [])
  | c :: rest =>
    if "diouxXcsbfFeEgGaA".contains c then (.place f widthGiven precisionGiven c, rest)
    else (.invalid (text.take (text.length - rest.length)), rest)

def formatPieces : Nat → Bytes → List FormatPiece
  | 0, _ => []
  | _ + 1, [] => []
  | n + 1, '%' :: '%' :: rest => .text ['%'] :: formatPieces n rest
  | n + 1, '%' :: rest =>
    let (piece, rest) := readPlace rest
    piece :: formatPieces n rest
  | n + 1, '\\' :: c :: rest =>
    if isOctal c then
      let (value, rest) := takeOctal 3 (c :: rest)
      .text [byteChar value] :: formatPieces n rest
    else if c = 'e' then .text ['\x1b'] :: formatPieces n rest
    else
      match controlChar? c with
      | some d => .text [d] :: formatPieces n rest
      | none => .text ['\\', c] :: formatPieces n rest
  | n + 1, c :: rest => .text [c] :: formatPieces n rest

structure Filling where
  output : Bytes
  complaints : List Bytes
  arguments : List Bytes
  used : Bool
  ended : Bool
  failed : Bool

namespace Filling

def next (s : Filling) : Option Bytes × Filling :=
  (s.arguments.head?, { s with arguments := s.arguments.drop 1, used := true })

def write (s : Filling) (text : Bytes) : Filling := { s with output := s.output ++ text }

def complain (s : Filling) (text : Bytes) (message : String) : Filling :=
  { s with complaints := s.complaints ++ [text ++ ": ".toList ++ message.toList] }

def checkRest (s : Filling) (text rest : Bytes) : Filling :=
  if rest.isEmpty then s
  else if rest.length = text.length then s.complain text "expected numeric value"
  else s.complain text "not completely converted"

def quotedValue? : Bytes → Option Nat
  | [_] => some 0
  | q :: c :: _ => if q = '"' || q = '\'' then some c.toNat else none
  | _ => none

def integer (s : Filling) (isSigned : Bool) (argument : Option Bytes) : Int × Filling :=
  match argument with
  | none => (0, s)
  | some [] => (0, s)
  | some (c :: rest) =>
    let text := c :: rest
    if c = '"' || c = '\'' then (((quotedValue? text).getD 0 : Nat), s)
    else
      let (negative, digits) := match text.dropWhile isSpace with
        | '-' :: digits => (true, digits)
        | '+' :: digits => (false, digits)
        | digits => (false, digits)
      if !digits.head?.any Char.isDigit then (0, s.checkRest text text)
      else
        let (n, rest) := Arithmetic.takeNumber digits
        let i : Int := if negative then -(n : Int) else n
        let clamped :=
          if isSigned then Arithmetic.saturate i
          else if 0x10000000000000000 ≤ n then 0xffffffffffffffff else i
        let s := s.checkRest text rest
        if (if isSigned then clamped = i else n < 0x10000000000000000) then (clamped, s)
        else (clamped, s.complain text "Numerical result out of range")

def double (s : Filling) (argument : Option Bytes) : Float × Filling :=
  match argument with
  | none => (0.0, s)
  | some [] => (0.0, s)
  | some (c :: rest) =>
    let text := c :: rest
    if c = '"' || c = '\'' then (Float.ofNat ((quotedValue? text).getD 0), s)
    else
      match takeDouble? text with
      | some (x, rest) => (x, s.checkRest text rest)
      | none => (0.0, s.checkRest text text)

def givenFormat (s : Filling) (f : Format) (widthGiven precisionGiven : Bool) :
    Format × Filling :=
  let (f, s) := if widthGiven then
      let (a, s) := s.next
      let (i, s) := s.integer true a
      ({ f with width := i.natAbs, toLeft := f.toLeft || i < 0 }, s)
    else (f, s)
  if precisionGiven then
    let (a, s) := s.next
    let (i, s) := s.integer true a
    ({ f with precision := if i < 0 then none else some i.toNat }, s)
  else (f, s)

def fill (s : Filling) (piece : FormatPiece) : Filling :=
  if s.ended || s.failed then s
  else
    match piece with
    | .text bytes => s.write bytes
    | .missing =>
      { s with
        complaints := s.complaints ++ ["missing format character".toList], failed := true }
    | .invalid bytes =>
      { s with
        complaints := s.complaints ++ ['%' :: bytes ++ ": invalid directive".toList]
        failed := true }
    | .place f widthGiven precisionGiven conversion =>
      let (f, s) := s.givenFormat f widthGiven precisionGiven
      let (argument, s) := s.next
      match conversion with
      | 's' => s.write (f.string (argument.getD []))
      | 'c' => s.write (f.string [((argument.getD []).head?).getD '\x00'])
      | 'b' =>
        let text := argument.getD []
        let (text, ended) := unescape (text.length + 1) text
        { s.write (f.string text) with ended := ended }
      | c =>
        if "diouxX".contains c then
          let (i, s) := s.integer (c = 'd' || c = 'i') argument
          s.write (f.integer c i)
        else
          let (x, s) := s.double argument
          s.write (f.double c x)

end Filling

def fillFormat (pieces : List FormatPiece) : Nat → Filling → Filling
  | 0, s => s
  | n + 1, s =>
    let s := pieces.foldl Filling.fill { s with used := false }
    if s.used && !s.arguments.isEmpty && !s.ended && !s.failed then fillFormat pieces n s else s

def formatted (format : Bytes) (arguments : List Bytes) : Filling :=
  fillFormat (formatPieces (format.length + 1) format) (arguments.length + 1)
    ⟨[], [], arguments, false, false, false⟩

end LintEngine.Shell
