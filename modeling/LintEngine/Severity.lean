namespace LintEngine

inductive Severity where
  | error
  | warning
  | info
  | other (name : String)
deriving DecidableEq, Repr

namespace Severity

def ofName (name : String) : Severity :=
  if name = "error" then error
  else if name = "warning" then warning
  else if name = "info" then info
  else other name

def name : Severity → String
  | error => "error"
  | warning => "warning"
  | info => "info"
  | other name => name

def rank : Severity → Nat
  | error => 0
  | warning => 1
  | info => 2
  | other _ => 3

/-- The known severities come first, from the most to the least serious, then the others by
name. -/
def compare (a b : Severity) : Ordering :=
  (Ord.compare a.rank b.rank).then (if a.rank = 3 then Ord.compare a.name b.name else .eq)

@[simp]
theorem name_ofName (name : String) : (ofName name).name = name := by
  unfold ofName
  split
  · simp_all [Severity.name]
  · split
    · simp_all [Severity.name]
    · split <;> simp_all [Severity.name]

end Severity

end LintEngine
