import LintEngine.Shell.Regex

namespace LintEngine.Shell.Awk

inductive Name where
  | common (name : String)
  | parameter (place : Nat)
deriving DecidableEq

inductive Comparison where
  | less
  | atMost
  | equal
  | unequal
  | greater
  | atLeast
deriving DecidableEq

inductive Operation where
  | add
  | subtract
  | multiply
  | divide
  | remainder
  | power
deriving DecidableEq

mutual
inductive Expr where
  | number (x : Float)
  | text (bytes : Bytes)
  | regex (r : Regex)
  | place (t : Target)
  | assign (t : Target) (e : Expr)
  | update (t : Target) (op : Operation) (e : Expr)
  | step (t : Target) (up givesNew : Bool)
  | conditional (c a b : Expr)
  | both (a b : Expr)
  | either (a b : Expr)
  | not (a : Expr)
  | negative (a : Expr)
  | positive (a : Expr)
  | compare (c : Comparison) (a b : Expr)
  | matching (negated : Bool) (a b : Expr)
  | member (indices : List Expr) (array : Name)
  | join (a b : Expr)
  | arithmetic (op : Operation) (a b : Expr)
  | group (es : List Expr)
  | call (function : String) (arguments : List Expr)
  | builtin (function : String) (arguments : List Expr)
  | readLine (source : LineSource) (t : Option Target)
inductive Target where
  | variable (n : Name)
  | element (array : Name) (indices : List Expr)
  | field (e : Expr)
inductive LineSource where
  | input
  | file (e : Expr)
  | command (e : Expr)
end

instance : Inhabited Expr := ⟨.text []⟩

inductive Destination where
  | output
  | file (e : Expr)
  | append (e : Expr)
  | pipe (e : Expr)

inductive Statement where
  | run (e : Expr)
  | print (es : List Expr) (d : Destination)
  | printf (es : List Expr) (d : Destination)
  | block (ss : List Statement)
  | cond (c : Expr) (a b : Statement)
  | while (c : Expr) (body : Statement)
  | doWhile (body : Statement) (c : Expr)
  | loop (first condition step : Option Expr) (body : Statement)
  | each (t : Target) (array : Name) (body : Statement)
  | next
  | nextFile
  | exit (e : Option Expr)
  | give (e : Option Expr)
  | break
  | continue
  | delete (array : Name) (indices : Option (List Expr))

instance : Inhabited Statement := ⟨.block []⟩

inductive Pattern where
  | atStart
  | atEnd
  | always
  | one (e : Expr)
  | range (number : Nat) (first last : Expr)

structure Rule where
  pattern : Pattern
  action : Option Statement

structure Function where
  name : String
  arrays : List Bool
  body : Statement

structure Program where
  rules : List Rule
  functions : List Function

end LintEngine.Shell.Awk
