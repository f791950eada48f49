import LintEngine.Proofs.LintOrder
import LintEngine.Proofs.Result
import LintEngine.Search
import Mathlib.Data.List.Pairwise

namespace LintEngine

open Std

namespace Path

instance : TransCmp Path.compare := by
  let _ : Ord (List Component) := ⟨compareComponents⟩
  have _ : TransOrd (List Component) := inferInstanceAs (TransCmp compareComponents)
  exact inferInstanceAs (TransCmp (compareOn components))

def Ascending (paths : List Path) : Prop :=
  paths.Pairwise fun p q ↦ p.compare q = .lt

def Distinct (paths : List Path) : Prop :=
  paths.Pairwise fun p q ↦ p.same q = false

variable {p q : Path} {paths paths' : List Path}

theorem same_self (p : Path) : p.same p = true := beq_self_eq_true _

theorem same_comm (p q : Path) : p.same q = q.same p := Bool.beq_comm

instance : Symm fun p q : Path ↦ p.same q = false where
  symm p q h := (same_comm q p).trans h

theorem compare_eq_lt_of_isLE (h : (p.compare q).isLE = true) (hpq : p.same q = false) :
    p.compare q = .lt := by
  have hne : p.compare q ≠ .eq := fun he ↦ by simp [compare_eq_eq_iff.1 he] at hpq
  revert h hne
  cases p.compare q <;> simp

theorem same_eq_false_of_lt (h : p.compare q = .lt) : p.same q = false := by
  rw [Bool.eq_false_iff]
  intro hsame
  rw [compare_eq_eq_iff.2 hsame] at h
  cases h

theorem Ascending.distinct (h : Ascending paths) : Distinct paths :=
  h.imp same_eq_false_of_lt

theorem Distinct.perm (h : Distinct paths) (hperm : paths.Perm paths') : Distinct paths' :=
  List.Pairwise.perm h hperm fun h ↦ (same_comm _ _).trans h

theorem Distinct.eq_of_same (h : Distinct paths) (hp : p ∈ paths) (hq : q ∈ paths)
    (hpq : p.same q = true) : p = q := by
  by_contra hne
  rw [List.Pairwise.forall h hp hq hne] at hpq
  cases hpq

theorem Ascending.eq_of_mem_iff (h : Ascending paths) (h' : Ascending paths')
    (hmem : ∀ p, p ∈ paths ↔ p ∈ paths') : paths = paths' := by
  have hnodup : ∀ l, Ascending l → l.Nodup := by
    intro l hl
    refine hl.imp fun {p q} hlt he ↦ ?_
    have hsame := same_eq_false_of_lt hlt
    rw [he, same_self] at hsame
    cases hsame
  refine List.Perm.eq_of_pairwise (fun p q _ _ hpq hqp ↦ ?_) h h'
    ((List.perm_ext_iff_of_nodup (hnodup _ h) (hnodup _ h')).2 hmem)
  have hswap : p.compare q = (q.compare p).swap := OrientedCmp.eq_swap
  rw [hswap, hqp] at hpq
  cases hpq

theorem Ascending.mergeSort_eq (h : Ascending paths') (hperm : paths.Perm paths') :
    (paths.mergeSort fun p q ↦ (p.compare q).isLE) = paths' := by
  refine List.Perm.eq_of_pairwise (fun p q hp hq hpq hqp ↦ ?_)
    (List.pairwise_mergeSort isLE_trans_of_cmp isLE_total_of_cmp paths)
    (h.imp fun hlt ↦ by simp [hlt]) ((List.mergeSort_perm paths _).trans hperm)
  have hsame : p.same q = true := compare_eq_eq_iff.1 (OrientedCmp.isLE_antisymm hpq hqp)
  exact h.distinct.eq_of_same (hperm.subset (List.mem_mergeSort.1 hp)) hq hsame

end Path

namespace Search

theorem dropRepeated_sublist (paths : List Path) : (dropRepeated paths).Sublist paths := by
  fun_induction dropRepeated paths with
  | case1 => exact .slnil
  | case2 p => exact .refl _
  | case3 p q rest _ ih => exact ih.trans ((List.sublist_cons_self q rest).cons_cons p)
  | case4 p q rest _ ih => exact ih.cons_cons p

theorem ascending_dropRepeated {paths : List Path}
    (h : paths.Pairwise fun p q ↦ (p.compare q).isLE) : Path.Ascending (dropRepeated paths) := by
  fun_induction dropRepeated paths with
  | case1 => exact .nil
  | case2 p => exact List.pairwise_singleton _ p
  | case3 p q rest _ ih => exact ih (h.sublist ((List.sublist_cons_self q rest).cons_cons p))
  | case4 p q rest hpq ih =>
    have hlt : p.compare q = .lt :=
      Path.compare_eq_lt_of_isLE (List.rel_of_pairwise_cons h List.mem_cons_self)
        (by simpa using hpq)
    refine List.pairwise_cons.2 ⟨fun r hr ↦ ?_, ih h.of_cons⟩
    rcases List.mem_cons.1 ((dropRepeated_sublist _).subset hr) with rfl | hr
    · exact hlt
    · exact TransCmp.lt_of_lt_of_isLE hlt (List.rel_of_pairwise_cons h.of_cons hr)

/-- Of the spellings of a path the one that comes first is kept. -/
theorem mem_dropRepeated {paths : List Path} {f : Path}
    (h : paths.Pairwise fun p q ↦ (p.compare q).isLE) :
    f ∈ dropRepeated paths ↔ paths.find? (·.same f) = some f := by
  fun_induction dropRepeated paths with
  | case1 => simp
  | case2 p =>
    rw [List.mem_singleton, List.find?_singleton]
    constructor
    · rintro rfl
      rw [Path.same_self, if_pos rfl]
    · intro hf
      split at hf
      · exact (Option.some.inj hf).symm
      · cases hf
  | case3 p q rest hpq ih =>
    have hpq : p.components = q.components := by simpa [Path.same] using hpq
    have hsame : p.same f = q.same f := by rw [Path.same, hpq, Path.same]
    rw [ih (h.sublist ((List.sublist_cons_self q rest).cons_cons p)), List.find?_cons,
      List.find?_cons, List.find?_cons, ← hsame]
    cases p.same f <;> rfl
  | case4 p q rest hpq ih =>
    have hlt : ∀ r ∈ q :: rest, p.same r = false := by
      intro r hr
      have hpq : p.compare q = .lt :=
        Path.compare_eq_lt_of_isLE (List.rel_of_pairwise_cons h List.mem_cons_self)
          (by simpa using hpq)
      refine Path.same_eq_false_of_lt ?_
      rcases List.mem_cons.1 hr with rfl | hr
      · exact hpq
      · exact TransCmp.lt_of_lt_of_isLE hpq (List.rel_of_pairwise_cons h.of_cons hr)
    rw [List.mem_cons, ih h.of_cons]
    constructor
    · rintro (rfl | hf)
      · exact List.find?_cons_of_pos (Path.same_self f)
      · have hp := hlt f (List.mem_of_find?_eq_some hf)
        rwa [List.find?_cons_of_neg (by simp [hp])]
    · intro hf
      by_cases hp : p.same f = true
      · rw [List.find?_cons_of_pos (by simpa using hp)] at hf
        exact .inl (Option.some.inj hf).symm
      · rw [List.find?_cons_of_neg (by simpa using hp)] at hf
        exact .inr hf

theorem mem_sortDistinct {paths : List Path} {f : Path} :
    f ∈ sortDistinct paths ↔ paths.find? (·.same f) = some f := by
  have hfilter : (paths.mergeSort fun p q ↦ (p.compare q).isLE).filter (·.compare f == .eq) =
      paths.filter (·.compare f == .eq) := filter_mergeSort paths f
  have hsame : (fun p : Path ↦ p.compare f == .eq) = (·.same f) := by
    funext p
    rw [Bool.eq_iff_iff, beq_iff_eq, Path.compare_eq_eq_iff]
  rw [hsame] at hfilter
  rw [sortDistinct,
    mem_dropRepeated (List.pairwise_mergeSort isLE_trans_of_cmp isLE_total_of_cmp paths),
    ← List.head?_filter, hfilter, List.head?_filter]

theorem ascending_sortDistinct (paths : List Path) : Path.Ascending (sortDistinct paths) :=
  ascending_dropRepeated (List.pairwise_mergeSort isLE_trans_of_cmp isLE_total_of_cmp paths)

theorem dropRepeated_of_ascending {paths : List Path} (h : Path.Ascending paths) :
    dropRepeated paths = paths := by
  induction paths using dropRepeated.induct with
  | case1 => rw [dropRepeated]
  | case2 p => rw [dropRepeated]
  | case3 p q rest hpq =>
    rw [Path.same_eq_false_of_lt (List.rel_of_pairwise_cons h List.mem_cons_self)] at hpq
    cases hpq
  | case4 p q rest hpq ih => rw [dropRepeated, if_neg hpq, ih h.of_cons]

theorem sortDistinct_eq {paths paths' : List Path} (h : Path.Ascending paths')
    (hperm : paths.Perm paths') : sortDistinct paths = paths' := by
  rw [sortDistinct, h.mergeSort_eq hperm, dropRepeated_of_ascending h]

theorem ascending_find {s : Search} {tree : FileTree} {files : List Path}
    (h : s.find tree = .ok files) : Path.Ascending files := by
  simp only [find, Result.bind_eq_ok] at h
  obtain ⟨atPaths, -, matching, -, excludedPaths, -, excludedGlobs, -, h⟩ := h
  cases h
  exact (ascending_sortDistinct _).sublist List.filter_sublist

end Search

end LintEngine
