import LintEngine.Shell.Bytes

namespace LintEngine.Shell.Signal

open Number

def names : List String :=
  ["HUP", "INT", "QUIT", "ILL", "TRAP", "ABRT", "BUS", "FPE", "KILL", "USR1", "SEGV", "USR2",
    "PIPE", "ALRM", "TERM", "STKFLT", "CHLD", "CONT", "STOP", "TSTP", "TTIN", "TTOU", "URG", "XCPU",
    "XFSZ", "VTALRM", "PROF", "WINCH", "IO", "PWR", "SYS"]

/-- The number of a signal that is given by its name or number; zero stands for the end of a
shell. -/
def number? (text : Bytes) : Option Nat :=
  if !text.isEmpty && text.all Char.isDigit then
    if ofDigits text ≤ 64 then some (ofDigits text) else none
  else
    let name := text.map Char.toUpper
    if name = "EXIT".toList then some 0
    else
      let name := (stripLead? "SIG".toList name).getD name
      (names.findIdx? (·.toList = name)).map (· + 1)

def name (number : Nat) : Bytes :=
  if number = 0 then "EXIT".toList
  else ((names[number - 1]?).map String.toList).getD (natText number)

def isHarmless (number : Nat) : Bool :=
  [0, 17, 18, 19, 20, 21, 22, 23, 28].contains number

def killNumber : Nat := 9

def termNumber : Nat := 15

end LintEngine.Shell.Signal
