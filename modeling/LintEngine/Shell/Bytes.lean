import LintEngine.Number.Decimal

namespace LintEngine.Shell

open Number

abbrev Bytes := List Char

namespace Bytes

def ofByteArray (bytes : ByteArray) : Bytes :=
  bytes.toList.map fun b => Char.ofNat b.toNat

def toByteArray (text : Bytes) : ByteArray :=
  ⟨(text.map fun c => UInt8.ofNat c.toNat).toArray⟩

def ofString (s : String) : Bytes :=
  ofByteArray s.toUTF8

end Bytes

def byteChar (n : Nat) : Char := Char.ofNat (n % 256)

def isBlank (c : Char) : Bool := c = ' ' || c = '\t'

def isSpace (c : Char) : Bool := c = ' ' || ('\t' ≤ c && c ≤ '\r')

def isNameStart (c : Char) : Bool := c.isAlpha || c = '_'

def isNameChar (c : Char) : Bool := c.isAlphanum || c = '_'

def isOctal (c : Char) : Bool := '0' ≤ c && c ≤ '7'

def isName : Bytes → Bool
  | [] => false
  | c :: rest => isNameStart c && rest.all isNameChar

def natText (n : Nat) : Bytes := Nat.toDigits 10 n

def intBytes (i : Int) : Bytes := (intText i).toList

def dropEndWhile (p : Char → Bool) (text : Bytes) : Bytes :=
  (text.reverse.dropWhile p).reverse

def dropFinalFeeds (text : Bytes) : Bytes :=
  dropEndWhile (· = '\n') text

def stripLead? : Bytes → Bytes → Option Bytes
  | [], text => some text
  | _ :: _, [] => none
  | a :: as, b :: bs => if a = b then stripLead? as bs else none

def cutAt (delimiter : Char) : Bytes → List Bytes
  | [] => [[]]
  | c :: rest =>
    if c = delimiter then [] :: cutAt delimiter rest
    else
      match cutAt delimiter rest with
      | part :: parts => (c :: part) :: parts
      | [] => [[c]]

def splitWords (p : Char → Bool) (text : Bytes) : List Bytes :=
  let (words, current) := text.foldl (fun (words, current) c =>
    if p c then (if current.isEmpty then (words, []) else (current.reverse :: words, []))
    else (words, c :: current)) (([], []) : List Bytes × Bytes)
  (if current.isEmpty then words else current.reverse :: words).reverse

def compareBytes (a b : Bytes) : Ordering :=
  compareOfLessAndEq a b

def controlChar? : Char → Option Char
  | 'a' => some '\x07'
  | 'b' => some '\x08'
  | 'f' => some '\x0c'
  | 'n' => some '\n'
  | 'r' => some '\r'
  | 't' => some '\t'
  | 'v' => some '\x0b'
  | '\\' => some '\\'
  | _ => none

def takeOctal (most : Nat) (text : Bytes) : Nat × Bytes :=
  let digits := (text.take most).takeWhile isOctal
  ((ofRadix? 8 digits).getD 0, text.drop digits.length)

structure Lines where
  lines : List Bytes
  ended : Bool
deriving DecidableEq

namespace Lines

def ofRecords (terminator : Char) (text : Bytes) : Lines :=
  let parts := cutAt terminator text
  if parts.getLast? = some [] then ⟨parts.dropLast, true⟩ else ⟨parts, false⟩

def ofBytes (text : Bytes) : Lines :=
  ofRecords '\n' text

def join (lines : List Bytes) : Bytes :=
  lines.flatMap fun line => line ++ ['\n']

def toBytes (l : Lines) : Bytes :=
  let text := join l.lines
  if l.ended || l.lines.isEmpty then text else text.dropLast

end Lines

def takeLine (text : Bytes) : Bytes × Bytes :=
  match text.dropWhile (· ≠ '\n') with
  | [] => (text, [])
  | _ :: rest => (text.takeWhile (· ≠ '\n') ++ ['\n'], rest)

def rightAligned (width : Nat) (text : Bytes) : Bytes :=
  List.replicate (width - text.length) ' ' ++ text

def leftAligned (width : Nat) (text : Bytes) : Bytes :=
  text ++ List.replicate (width - text.length) ' '

end LintEngine.Shell
