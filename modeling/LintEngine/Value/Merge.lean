import LintEngine.Value.Basic

namespace LintEngine

mutual
/-- Lays the entries of `upper` over `lower`, one by one. -/
def Fields.merge (lower : Fields) (upper : Fields) : Fields :=
  match upper with
  | [] => lower
  | (key, value) :: rest =>
    Fields.merge (Fields.insert lower key (Value.mergeOver (Fields.get? lower key) value)) rest
termination_by structural upper
def Value.mergeOver (before : Option Value) (value : Value) : Value :=
  match value with
  | .map upper =>
    match before with
    | some (.map lower) => .map (Fields.merge lower upper)
    | _ => .map upper
  | other => other
termination_by structural value
end

end LintEngine
