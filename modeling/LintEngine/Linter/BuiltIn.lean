import LintEngine.Linter.LineLength
import LintEngine.Linter.NoTodo
import LintEngine.Linter.TrailingWhitespace

namespace LintEngine

def builtInLinters : Except Error (List Descriptor) :=
  [LineLength.descriptor, NoTodo.descriptor, TrailingWhitespace.descriptor].mapM id

def builtInLinter? (name : String) : Option (Except Error Descriptor) :=
  if name = "LineLength" then some LineLength.descriptor
  else if name = "NoTodo" then some NoTodo.descriptor
  else if name = "TrailingWhitespace" then some TrailingWhitespace.descriptor
  else none

end LintEngine
