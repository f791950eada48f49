import LintEngine.Linter.Registry

namespace LintEngine

/-- What a scripted linter does with every document. -/
inductive Script where
  | quiet
  | eachLine
  | firstLine
  | fixed (findings : List Finding)
  | words
  | optionValue (name : String)
  | fail (message : String) (partly : Bool)
  | panic (message : Option String)
  | sleep (milliseconds : Nat)

namespace Script

def lineFindings (number : Nat) : List String → List Finding
  | [] => []
  | _ :: rest =>
    ⟨.single (UInt32.ofNat number) 1, s!"Line {number}"⟩ :: lineFindings (number + 1) rest

def wordsText : Option Nat → String
  | some n => s!"words Some({n})"
  | none => "words None"

def scan (script : Script) (settings : Settings) (document : Document) : Scan :=
  match script with
  | quiet => .quiet
  | eachLine => .found (lineFindings 1 document.lines)
  | firstLine => .found [⟨.start, "First line"⟩]
  | fixed findings => .found findings
  | words => .found [⟨.start, wordsText document.words⟩]
  | optionValue name =>
    .found [⟨.start, name ++ "=" ++ ((settings.get? name).getD .null).json⟩]
  | fail message partly =>
    ⟨if partly then [⟨.start, "partial"⟩] else [], .failed message, 0⟩
  | panic message => ⟨[], .panicked message, 0⟩
  | sleep milliseconds => ⟨[], .done, milliseconds⟩

def limit : Nat := 5

def setUp (script : Script) (limitOption : Option String) (settings : Settings) :
    Except Error (Document → Scan) :=
  match limitOption with
  | none => .ok (script.scan settings)
  | some option => do
    let n ← settings.unsigned option
    if limit < n then .error (.reported .linterConfiguration "limit too high")
    else .ok (script.scan settings)

end Script

end LintEngine
