import LintEngine.Shell.Regex

namespace LintEngine.Shell.Awk

inductive FieldEnd where
  | blanks
  | nothing
  | char (c : Char)
  | matching (r : Regex)

inductive RecordEnd where
  | char (c : Char)
  | emptyLines
  | matching (r : Regex)

namespace FieldEnd

def ofText? : Bytes → Option FieldEnd
  | [' '] => some .blanks
  | [] => some .nothing
  | [c] => some (.char c)
  | text => (Regex.parse? .scanner text).map .matching

def cutMatches (r : Regex) : Nat → (passed rest : Bytes) → List Bytes
  | 0, _, rest => [rest]
  | n + 1, passed, rest =>
    match r.searchFilled .plain [] passed rest with
    | some m => m.before :: cutMatches r n m.passed m.rest
    | none => [rest]

def cut (e : FieldEnd) (text : Bytes) : List Bytes :=
  if text.isEmpty then []
  else
    match e with
    | .blanks => splitWords (fun c => c = ' ' || c = '\t' || c = '\n') text
    | .nothing => text.map fun c => [c]
    | .char c => cutAt c text
    | .matching r => cutMatches r (text.length + 1) [] text

end FieldEnd

namespace RecordEnd

def ofText? : Bytes → Option RecordEnd
  | [] => some .emptyLines
  | [c] => some (.char c)
  | text => (Regex.parse? .scanner text).map .matching

def takeParagraph (taken : Bytes) : Bytes → Bytes × Bytes
  | [] => (taken, [])
  | '\n' :: '\n' :: rest => (taken, rest.dropWhile (· = '\n'))
  | c :: rest => takeParagraph (c :: taken) rest

def take? (e : RecordEnd) (text : Bytes) : Option (Bytes × Bytes) :=
  match e with
  | .char c =>
    if text.isEmpty then none
    else some (text.takeWhile (· ≠ c), (text.dropWhile (· ≠ c)).drop 1)
  | .emptyLines =>
    match text.dropWhile (· = '\n') with
    | [] => none
    | text =>
      let (taken, rest) := takeParagraph [] text
      some ((taken.dropWhile (· = '\n')).reverse, rest)
  | .matching r =>
    if text.isEmpty then none
    else
      match r.searchFilled .plain [] [] text with
      | some m => some (m.before, m.rest)
      | none => some (text, [])

end RecordEnd

/-- What a replacement gives for a match: an ampersand stands for the match; a backslash before it
takes its meaning away, and two of them are one. The number bounds the length. -/
def replacement (found : Bytes) : Nat → Bytes → Bytes
  | 0, text => text
  | _ + 1, [] => []
  | n + 1, '&' :: rest => found ++ replacement found n rest
  | n + 1, '\\' :: rest =>
    let slashes := '\\' :: rest.takeWhile (· = '\\')
    match rest.dropWhile (· = '\\') with
    | '&' :: after =>
      let kept := List.replicate (slashes.length / 2) '\\'
      if slashes.length % 2 = 1 then kept ++ '&' :: replacement found n after
      else kept ++ found ++ replacement found n after
    | after => slashes ++ replacement found n after
  | n + 1, c :: rest => c :: replacement found n rest

def replaceMatches (r : Regex) (everywhere : Bool) (new text : Bytes) : Bytes × Nat :=
  let found := if everywhere then r.matchesIn .plain text else (r.search? .plain [] text).toList
  let pieces := found.flatMap fun m => m.before ++ replacement m.text (new.length + 1) new
  (pieces ++ (found.getLast?.map (·.rest)).getD text, found.length)

end LintEngine.Shell.Awk
