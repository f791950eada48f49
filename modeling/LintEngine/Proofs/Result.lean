import Mathlib.Logic.Basic

namespace LintEngine.Result

variable {ε α β : Type}

theorem bind_eq_ok {x : Except ε α} {f : α → Except ε β} {b : β} :
    (x >>= f) = .ok b ↔ ∃ a, x = .ok a ∧ f a = .ok b := by
  cases x <;> simp [bind, Except.bind]

theorem bind_eq_error {x : Except ε α} {f : α → Except ε β} {e : ε} :
    (x >>= f) = .error e ↔ x = .error e ∨ ∃ a, x = .ok a ∧ f a = .error e := by
  cases x <;> simp [bind, Except.bind]

theorem mapError_ok_iff {δ : Type} (f : ε → δ) {a : α} :
    ∀ {x : Except ε α}, Except.mapError f x = .ok a ↔ x = .ok a
  | .ok _ => ⟨fun h ↦ congrArg _ (Except.ok.inj h), fun h ↦ congrArg _ (Except.ok.inj h)⟩
  | .error _ => ⟨nofun, nofun⟩

/-- The result has a property, if there is one. -/
def Yields (P : α → Prop) : Except ε α → Prop
  | .ok a => P a
  | .error _ => True

theorem Yields.bind {P : α → Prop} {Q : β → Prop} {x : Except ε α} {f : α → Except ε β}
    (h : Yields P x) (hf : ∀ a, P a → Yields Q (f a)) : Yields Q (x >>= f) := by
  cases x with
  | ok a => exact hf a h
  | error e => trivial

theorem Yields.any (x : Except ε α) : Yields (fun _ ↦ True) x := by
  cases x <;> trivial

theorem Yields.of_eq {P : α → Prop} {x : Except ε α} {a : α} (h : Yields P x) (hx : x = .ok a) :
    P a := by
  subst hx
  exact h

end LintEngine.Result
