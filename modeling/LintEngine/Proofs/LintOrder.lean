import LintEngine.Report.Basic
import Mathlib.Data.Prod.Lex

namespace LintEngine

open Std

namespace Path

def Component.label : Component → String
  | .name s => s
  | _ => ""

theorem Component.compare_eq :
    Component.compare = compareLex (compareOn Component.rank) (compareOn Component.label) := by
  funext a b
  cases a <;> cases b <;>
    simp [Component.compare, compareLex, compareOn, Component.rank, Component.label] <;> rfl

instance : TransCmp Component.compare := by
  rw [Component.compare_eq]
  infer_instance

instance : LawfulEqCmp Component.compare where
  eq_of_compare {a b} h := by
    cases a <;> cases b <;> simp_all [Component.compare, Component.rank]

theorem compareComponents_eq : compareComponents = List.compareLex Component.compare := by
  funext as bs
  induction as generalizing bs with
  | nil => cases bs <;> rfl
  | cons a as ih =>
    cases bs with
    | nil => rfl
    | cons b bs =>
      rw [compareComponents, ih, List.compareLex]
      cases a.compare b <;> rfl

instance : TransCmp compareComponents := by
  rw [compareComponents_eq]
  infer_instance

theorem compare_eq_eq_iff {p q : Path} : p.compare q = .eq ↔ p.same q = true := by
  have hiff : LawfulEqCmp compareComponents := by
    rw [compareComponents_eq]
    infer_instance
  rw [Path.compare, LawfulEqCmp.compare_eq_iff_eq, Path.same, beq_iff_eq]

end Path

namespace Lint

def sameLine (path : Path) (line : UInt32) (lint : Lint) : Bool :=
  lint.path.same path && lint.range.first.line == line

instance : TransCmp Lint.compare := by
  let _ : Ord (List Path.Component) := ⟨Path.compareComponents⟩
  have _ : TransOrd (List Path.Component) := inferInstanceAs (TransCmp Path.compareComponents)
  exact inferInstanceAs (TransCmp (compareLex (compareOn fun lint : Lint ↦ lint.path.components)
    (compareOn fun lint : Lint ↦ lint.range.first.line)))

theorem compare_eq_eq_iff {a b : Lint} :
    a.compare b = .eq ↔ sameLine b.path b.range.first.line a = true := by
  rw [Lint.compare, Ordering.then_eq_eq, Path.compare_eq_eq_iff, LawfulEqCmp.compare_eq_iff_eq,
    sameLine, Bool.and_eq_true, beq_iff_eq]

end Lint

section StableSort

variable {α : Type} {cmp : α → α → Ordering} [TransCmp cmp] {l l' : List α}

/-- Two sorted lists are the same if they have the same elements of each rank in the same order. -/
theorem eq_of_sorted (hl : l.Pairwise fun a b ↦ (cmp a b).isLE)
    (hl' : l'.Pairwise fun a b ↦ (cmp a b).isLE)
    (h : ∀ x, l.filter (cmp · x == .eq) = l'.filter (cmp · x == .eq)) : l = l' := by
  have hself : ∀ x, (cmp x x == .eq) = true := fun x ↦ by simp [ReflCmp.compare_self]
  have hmem : ∀ x, x ∈ l ↔ x ∈ l' := fun x ↦ by
    simpa [List.mem_filter, hself] using congrArg (x ∈ ·) (h x)
  induction l generalizing l' with
  | nil => exact (List.eq_nil_iff_forall_not_mem.2 (fun x hx ↦ by simpa using (hmem x).2 hx)).symm
  | cons a rest ih =>
    cases l' with
    | nil => simpa using (hmem a).1 List.mem_cons_self
    | cons b rest' =>
      rw [List.pairwise_cons] at hl hl'
      have hab : (cmp a b).isLE := by
        rcases List.mem_cons.1 ((hmem b).2 List.mem_cons_self) with rfl | hb
        · simp [ReflCmp.compare_self]
        · exact hl.1 b hb
      have hba : (cmp b a).isLE := by
        rcases List.mem_cons.1 ((hmem a).1 List.mem_cons_self) with rfl | ha
        · simp [ReflCmp.compare_self]
        · exact hl'.1 a ha
      -- The heads have the same rank, and each is the first of its list that has it.
      have heq : (cmp a b == .eq) = true := by simp [OrientedCmp.isLE_antisymm hab hba]
      have hhead : a = b := by
        have hb := h b
        rw [List.filter_cons, List.filter_cons, if_pos heq, if_pos (hself b)] at hb
        exact (List.cons.inj hb).1
      subst hhead
      have hrest : ∀ x, rest.filter (cmp · x == .eq) = rest'.filter (cmp · x == .eq) := by
        intro x
        have hx := h x
        rw [List.filter_cons, List.filter_cons] at hx
        split at hx
        · exact (List.cons.inj hx).2
        · exact hx
      rw [ih hl.2 hl'.2 hrest (fun x ↦ by
        simpa [List.mem_filter, hself] using congrArg (x ∈ ·) (hrest x))]

theorem isLE_trans_of_cmp (a b c : α) :
    (cmp a b).isLE = true → (cmp b c).isLE = true → (cmp a c).isLE = true := TransCmp.isLE_trans

theorem isLE_total_of_cmp (a b : α) : ((cmp a b).isLE || (cmp b a).isLE) = true := by
  have hswap : cmp b a = (cmp a b).swap := OrientedCmp.eq_swap
  rw [hswap]
  cases cmp a b <;> rfl

theorem filter_mergeSort (l : List α) (x : α) :
    (l.mergeSort fun a b ↦ (cmp a b).isLE).filter (cmp · x == .eq) =
      l.filter (cmp · x == .eq) := by
  have hties : (l.filter (cmp · x == .eq)).Pairwise fun a b ↦ (cmp a b).isLE := by
    refine List.pairwise_of_forall_mem_list (fun a ha b hb ↦ ?_)
    have hax : cmp a x = .eq := by simpa using (List.mem_filter.1 ha).2
    have hbx : cmp b x = .eq := by simpa using (List.mem_filter.1 hb).2
    rw [TransCmp.eq_trans hax (OrientedCmp.eq_symm hbx)]
    rfl
  have hsub := (List.sublist_mergeSort isLE_trans_of_cmp isLE_total_of_cmp hties
    List.filter_sublist).filter (cmp · x == .eq)
  simp only [List.filter_filter, Bool.and_self] at hsub
  refine (hsub.eq_of_length ?_).symm
  exact ((List.mergeSort_perm l _).filter _).length_eq.symm

theorem mergeSort_congr (h : ∀ x, l.filter (cmp · x == .eq) = l'.filter (cmp · x == .eq)) :
    (l.mergeSort fun a b ↦ (cmp a b).isLE) = l'.mergeSort fun a b ↦ (cmp a b).isLE := by
  refine eq_of_sorted (List.pairwise_mergeSort isLE_trans_of_cmp isLE_total_of_cmp l)
    (List.pairwise_mergeSort isLE_trans_of_cmp isLE_total_of_cmp l') (fun x ↦ ?_)
  rw [filter_mergeSort, filter_mergeSort, h]

end StableSort

theorem Lint.sort_congr {xs ys : List Lint}
    (h : ∀ path line, xs.filter (sameLine path line) = ys.filter (sameLine path line)) :
    Lint.sort xs = Lint.sort ys := by
  refine mergeSort_congr (fun x ↦ ?_)
  have hline : (fun a ↦ Lint.compare a x == .eq) = sameLine x.path x.range.first.line := by
    funext a
    rw [Bool.eq_iff_iff, beq_iff_eq, compare_eq_eq_iff]
  rw [hline, h]

end LintEngine
