namespace LintEngine.Text

def isBlank (c : Char) : Bool :=
  let n := c.toNat
  (9 ≤ n && n ≤ 13) || n == 0x20 || n == 0x85 || n == 0xA0 || n == 0x1680 ||
    (0x2000 ≤ n && n ≤ 0x200A) || n == 0x2028 || n == 0x2029 || n == 0x202F || n == 0x205F ||
    n == 0x3000

def dropTrailingBlanks (line : List Char) : List Char :=
  (line.reverse.dropWhile isBlank).reverse

/-- The number of maximal runs of characters that are not blank; `inWord` tells whether the text
before belongs to such a run. -/
def countWords (inWord : Bool) : List Char → Nat
  | [] => 0
  | c :: rest =>
    if isBlank c then countWords false rest
    else if inWord then countWords true rest
    else countWords true rest + 1

def wordCount (text : String) : Nat :=
  countWords false text.toList

end LintEngine.Text
