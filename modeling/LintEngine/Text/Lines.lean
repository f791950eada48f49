namespace LintEngine.Text

def dropReturn : List Char → List Char
  | '\r' :: rest => rest
  | line => line

def linesFrom (current : List Char) : List Char → List (List Char)
  | [] => if current.isEmpty then [] else [current.reverse]
  | '\n' :: rest => (dropReturn current).reverse :: linesFrom [] rest
  | c :: rest => linesFrom (c :: current) rest

def lines (text : String) : List String :=
  (linesFrom [] text.toList).map String.ofList

end LintEngine.Text
