import LintEngine.Value.Basic

namespace LintEngine

inductive OptionKind where
  | boolean
  | integer
  | float
  | string
  | array
  | map
  | any
deriving DecidableEq, Repr

namespace OptionKind

def name : OptionKind → String
  | boolean => "boolean"
  | integer => "integer"
  | float => "float"
  | string => "string"
  | array => "array"
  | map => "map"
  | any => "any"

def accepts : OptionKind → Value → Bool
  | boolean, .bool _ => true
  | integer, .int _ => true
  | float, .int _ => true
  | float, .float _ => true
  | string, .string _ => true
  | array, .array _ => true
  | map, .map _ => true
  | any, _ => true
  | _, _ => false

end OptionKind

end LintEngine
