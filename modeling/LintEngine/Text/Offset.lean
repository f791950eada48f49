namespace LintEngine.Text

/-- The number of characters that the first `offset` bytes of a text make up. There is none if these
bytes end inside a character, or if there are not so many. -/
def charactersBefore? : Nat → List Char → Option Nat
  | 0, _ => some 0
  | _ + 1, [] => none
  | offset + 1, c :: rest =>
    if c.utf8Size ≤ offset + 1 then (charactersBefore? (offset + 1 - c.utf8Size) rest).map (· + 1)
    else none

end LintEngine.Text
