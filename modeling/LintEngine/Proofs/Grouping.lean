import LintEngine.Proofs.FoundFiles

namespace LintEngine

open Std

theorem Lint.pairwise_sort_lines (lints : List Lint) :
    (Lint.sort lints).Pairwise fun a b ↦ a.path.compare b.path = .lt ∨
      a.path.same b.path = true ∧ a.range.first.line ≤ b.range.first.line := by
  have hsorted : (Lint.sort lints).Pairwise fun a b ↦ (Lint.compare a b).isLE = true :=
    List.pairwise_mergeSort isLE_trans_of_cmp isLE_total_of_cmp lints
  refine hsorted.imp fun {a b} h ↦ ?_
  unfold Lint.compare at h
  cases hpath : a.path.compare b.path with
  | lt => exact .inl rfl
  | eq =>
    rw [hpath, Ordering.eq_then] at h
    exact .inr ⟨Path.compare_eq_eq_iff.1 hpath, Std.isLE_compare.1 h⟩
  | gt =>
    rw [hpath] at h
    cases h

theorem Lint.pairwise_sort (lints : List Lint) :
    (Lint.sort lints).Pairwise fun a b ↦ (a.path.compare b.path).isLE = true := by
  refine (Lint.pairwise_sort_lines lints).imp fun {a b} h ↦ ?_
  rcases h with hlt | ⟨hsame, -⟩
  · rw [hlt]
    rfl
  · rw [Path.compare_eq_eq_iff.2 hsame]
    rfl

namespace Report

variable {lints : List Lint} {group : Path × List Lint}

theorem flatMap_groupByPath (lints : List Lint) :
    (groupByPath lints).flatMap (·.2) = lints := by
  fun_induction groupByPath lints with
  | case1 => rfl
  | case2 lint rest path lints more h _ ih =>
    rw [h, List.flatMap_cons] at ih
    rw [List.flatMap_cons, List.cons_append, ih]
  | case3 lint rest path lints more h _ ih =>
    rw [h] at ih
    rw [List.flatMap_cons, ih]
    rfl
  | case4 lint rest h ih =>
    rw [h] at ih
    rw [← ih]
    rfl

/-- A group goes by the path of its first lint, and all its lints are about that file. -/
structure IsGroup (group : Path × List Lint) : Prop where
  first : group.2.head?.map (·.path) = some group.1
  same : ∀ lint ∈ group.2, lint.path.same group.1 = true

theorem isGroup_singleton (lint : Lint) : IsGroup (lint.path, [lint]) where
  first := rfl
  same := by
    rintro other hother
    rw [List.mem_singleton.1 hother, Path.same_self]

theorem IsGroup.cons {path : Path} (h : IsGroup (path, lints)) {lint : Lint}
    (hlint : lint.path.same path = true) : IsGroup (lint.path, lint :: lints) where
  first := rfl
  same := by
    rintro other hother
    rcases List.mem_cons.1 hother with rfl | hother
    · exact Path.same_self _
    · have hsame := h.same other hother
      simp only [Path.same, beq_iff_eq] at hlint hsame ⊢
      rw [hsame, hlint]

theorem isGroup_groupByPath (lints : List Lint) : ∀ group ∈ groupByPath lints, IsGroup group := by
  fun_induction groupByPath lints with
  | case1 => simp
  | case2 lint rest path lints more h hsame ih =>
    rw [h, List.forall_mem_cons] at ih
    exact List.forall_mem_cons.2 ⟨ih.1.cons hsame, ih.2⟩
  | case3 lint rest path lints more h _ ih =>
    rw [h] at ih
    exact List.forall_mem_cons.2 ⟨isGroup_singleton lint, ih⟩
  | case4 lint rest _ ih => exact List.forall_mem_singleton.2 (isGroup_singleton lint)

theorem exists_mem_of_group (h : group ∈ groupByPath lints) :
    ∃ lint ∈ lints, lint.path = group.1 := by
  obtain ⟨lint, hfirst, hpath⟩ := Option.map_eq_some_iff.1 (isGroup_groupByPath lints group h).first
  refine ⟨lint, ?_, hpath⟩
  rw [← flatMap_groupByPath lints]
  exact List.mem_flatMap.2 ⟨group, h, List.mem_of_head? hfirst⟩

theorem ascending_groupByPath
    (h : lints.Pairwise fun a b ↦ (a.path.compare b.path).isLE = true) :
    Path.Ascending ((groupByPath lints).map (·.1)) := by
  fun_induction groupByPath lints with
  | case1 => exact .nil
  | case2 lint rest path lints more hrest hsame ih =>
    rw [hrest] at ih
    have hascending := List.pairwise_cons.1 (ih h.of_cons)
    refine List.pairwise_cons.2 ⟨fun q hq ↦ ?_, hascending.2⟩
    rw [TransCmp.congr_left (Path.compare_eq_eq_iff.2 hsame)]
    exact hascending.1 q hq
  | case3 lint rest path lints more hrest hsame ih =>
    rw [hrest] at ih
    have hascending := List.pairwise_cons.1 (ih h.of_cons)
    have hlt : lint.path.compare path = .lt := by
      obtain ⟨other, hother, hpath⟩ := exists_mem_of_group (hrest ▸ List.mem_cons_self)
      have hle := List.rel_of_pairwise_cons h hother
      rw [hpath] at hle
      exact Path.compare_eq_lt_of_isLE hle (by simpa using hsame)
    refine List.pairwise_cons.2 ⟨List.forall_mem_cons.2 ⟨hlt, fun q hq ↦ ?_⟩, ih h.of_cons⟩
    exact TransCmp.lt_trans hlt (hascending.1 q hq)
  | case4 lint rest _ _ => exact List.pairwise_singleton _ _

theorem filter_flatMap_groups {groups : List (Path × List Lint)}
    (hdistinct : Path.Distinct (groups.map (·.1))) (hgroups : ∀ group ∈ groups, IsGroup group)
    (h : group ∈ groups) :
    (groups.flatMap (·.2)).filter (·.path.same group.1) = group.2 := by
  have hown : ∀ g : Path × List Lint, IsGroup g → g.2.filter (·.path.same g.1) = g.2 :=
    fun g hg ↦ List.filter_eq_self.2 hg.same
  have hother : ∀ g : Path × List Lint, IsGroup g → g.1.same group.1 = false →
      g.2.filter (·.path.same group.1) = [] := by
    refine fun g hg hne ↦ List.filter_eq_nil_iff.2 fun lint hlint hsame ↦ ?_
    have hpath := hg.same lint hlint
    simp only [Path.same, beq_iff_eq, beq_eq_false_iff_ne] at hpath hsame hne
    exact hne (hpath.symm.trans hsame)
  induction groups with
  | nil => cases h
  | cons g rest ih =>
    obtain ⟨hg, hrest⟩ := List.forall_mem_cons.1 hgroups
    obtain ⟨hne, hdistinct⟩ := List.pairwise_cons.1 hdistinct
    rw [List.flatMap_cons, List.filter_append]
    rcases List.mem_cons.1 h with rfl | h
    · have hnone : (rest.flatMap (·.2)).filter (·.path.same group.1) = [] := by
        rw [List.filter_flatMap]
        refine List.flatMap_eq_nil_iff.2 fun g' hg' ↦ hother g' (hrest g' hg') ?_
        exact (Path.same_comm _ _).trans (hne _ (List.mem_map_of_mem hg'))
      rw [hown _ hg, hnone, List.append_nil]
    · rw [hother g hg (hne _ (List.mem_map_of_mem h)), ih hdistinct hrest h, List.nil_append]

theorem ascending_groups (lints : List Lint) (documents : List Path) (severities : SeverityTable) :
    Path.Ascending ((make lints documents severities).groups.map (·.1)) :=
  ascending_groupByPath (Lint.pairwise_sort lints)

theorem group_eq_filter {documents : List Path} {severities : SeverityTable}
    (h : group ∈ (make lints documents severities).groups) :
    group.2 = (make lints documents severities).lints.filter (·.path.same group.1) := by
  have hfilter := filter_flatMap_groups (ascending_groups lints documents severities).distinct
    (isGroup_groupByPath _) h
  rw [groups, flatMap_groupByPath] at hfilter
  exact hfilter.symm

end Report

end LintEngine
