import LintEngine.Shell.Bytes

namespace LintEngine.Shell

inductive RedirectionKind where
  | input
  | output
  | overwrite
  | append
  | both
  | duplicate
  | document
deriving DecidableEq

inductive ValueTest where
  | default
  | assign
  | require
  | replace
deriving DecidableEq

mutual
/-- A part of a word. -/
inductive WordPart where
  | text (bytes : Bytes) (quoted : Bool)
  | parameter (name : Bytes) (use : ParameterUse) (quoted : Bool)
  | command (script : List Command) (quoted : Bool)
  | arithmetic (expression : List WordPart) (quoted : Bool)
/-- How the value of a parameter is used. -/
inductive ParameterUse where
  | value
  | length
  | test (t : ValueTest) (emptyIsMissing : Bool) (word : List WordPart)
  | cut (atEnd longest : Bool) (pattern : List WordPart)
  | invalid
inductive Redirection where
  | redirection (descriptor : Nat) (kind : RedirectionKind) (target : List WordPart)
      (document : Nat)
inductive Branch where
  | branch (patterns : List (List WordPart)) (body : Command)
inductive Command where
  | simple (line : Nat) (words : List (List WordPart)) (redirections : List Redirection)
  | redirected (body : Command) (redirections : List Redirection)
  | subshell (body : Command)
  | pipe (a b : Command)
  | both (a b : Command)
  | either (a b : Command)
  | sequence (a b : Command)
  | background (c : Command)
  | negation (c : Command)
  | conditional (condition body otherwise : Command)
  | loop (negated : Bool) (condition body : Command)
  | forEach (name : Bytes) (words : Option (List (List WordPart))) (body : Command)
  | choice (word : List WordPart) (branches : List Branch)
  | definition (name : Bytes) (body : Command)
  | nothing
end

abbrev Word := List WordPart

def WordPart.plain? : WordPart → Option Bytes
  | text bytes false => some bytes
  | _ => none

def plainWord? (w : Word) : Option Bytes :=
  (w.mapM WordPart.plain?).map List.flatten

end LintEngine.Shell
