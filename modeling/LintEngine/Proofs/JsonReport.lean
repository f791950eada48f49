import LintEngine.Proofs.Grouping
import LintEngine.Proofs.Merge
import LintEngine.Report.Json
import Mathlib.Algebra.GroupWithZero.Nat
import Mathlib.Data.Finset.Card
import Mathlib.Data.Finset.Dedup

namespace LintEngine

namespace Lint

theorem filter_sameLine_sort (path : Path) (line : UInt32) (lints : List Lint) :
    (Lint.sort lints).filter (sameLine path line) = lints.filter (sameLine path line) := by
  cases h : lints.filter (sameLine path line) with
  | nil =>
    rw [List.filter_eq_nil_iff] at h ⊢
    exact fun lint hlint ↦ h lint ((List.mergeSort_perm lints _).subset hlint)
  | cons x rest =>
    have hx : sameLine path line x = true := by
      have hmem : x ∈ lints.filter (sameLine path line) := h ▸ List.mem_cons_self
      exact (List.mem_filter.1 hmem).2
    have hline : sameLine path line = fun lint ↦ Lint.compare lint x == .eq := by
      obtain ⟨hpath, hfirst⟩ := (Bool.and_eq_true _ _).mp hx
      funext lint
      rw [Bool.eq_iff_iff, beq_iff_eq, compare_eq_eq_iff, sameLine, sameLine, eq_of_beq hfirst]
      simp only [Path.same, beq_iff_eq] at hpath
      simp only [Path.same, hpath]
    rw [← h, hline, Lint.sort, filter_mergeSort]

end Lint

namespace Report

variable {lints : List Lint} {documents : List Path} {severities : SeverityTable}

theorem length_groups (lints : List Lint) (documents : List Path) (severities : SeverityTable) :
    (make lints documents severities).groups.length =
      (lints.map (·.path.components)).toFinset.card := by
  let groups := (make lints documents severities).groups
  have hnodup : (groups.map (·.1.components)).Nodup := by
    have hdistinct := (ascending_groups lints documents severities).distinct
    refine List.pairwise_map.2 ((List.pairwise_map.1 hdistinct).imp fun {g g'} h he ↦ ?_)
    simp [Path.same, he] at h
  have hfiles : (groups.map (·.1.components)).toFinset =
      (lints.map (·.path.components)).toFinset := by
    have hperm : (make lints documents severities).lints.Perm lints := List.mergeSort_perm lints _
    ext components
    simp only [List.mem_toFinset, List.mem_map]
    constructor
    · rintro ⟨group, hgroup, rfl⟩
      obtain ⟨lint, hlint, hpath⟩ := exists_mem_of_group hgroup
      exact ⟨lint, hperm.subset hlint, by rw [hpath]⟩
    · rintro ⟨lint, hlint, rfl⟩
      have hflat : groups.flatMap (·.2) = (make lints documents severities).lints :=
        flatMap_groupByPath _
      have hmem := hperm.symm.subset hlint
      rw [← hflat] at hmem
      obtain ⟨group, hgroup, hin⟩ := List.mem_flatMap.1 hmem
      have hsame := (isGroup_groupByPath _ group hgroup).same lint hin
      simp only [Path.same, beq_iff_eq] at hsame
      exact ⟨group, hgroup, hsame.symm⟩
  calc groups.length = (groups.map (·.1.components)).length := (List.length_map _).symm
    _ = (groups.map (·.1.components)).toFinset.card := (List.toFinset_card_of_nodup hnodup).symm
    _ = (lints.map (·.path.components)).toFinset.card := by rw [hfiles]

theorem find?_of_group {group : Path × List Lint} {lint : Lint}
    (hgroup : group ∈ (make lints documents severities).groups) (hlint : lint ∈ group.2) :
    ((make lints documents severities).lints.find? (·.path.same lint.path)).map (·.path) =
      some group.1 := by
  have hg := isGroup_groupByPath _ group hgroup
  have hsame : (fun other : Lint ↦ other.path.same lint.path) = (·.path.same group.1) := by
    have hpath := hg.same lint hlint
    simp only [Path.same, beq_iff_eq] at hpath
    simp only [Path.same, hpath]
  rw [hsame, ← List.head?_filter, ← group_eq_filter hgroup, hg.first]

end Report

namespace ReportJson

def items (v : Value) (key : String) : List Value :=
  match v.at? [key] with
  | some (.array values) => values
  | _ => []

def offenses (v : Value) : List (Option Value × Value) :=
  (items v "files").flatMap fun file ↦ (items file "offenses").map fun o ↦ (file.at? ["path"], o)

/-- An offense tells a lint of a report: what it says, where, and in which file. The file goes by
the path of the first lint about it. -/
structure Tells (lints : List Lint) (o : Option Value × Value) (lint : Lint) : Prop where
  path : ∃ first, lints.find? (·.path.same lint.path) = some first ∧
    o.1 = some (.string first.path.text)
  severity : o.2.at? ["severity"] = some (.string lint.severity.name)
  message : o.2.at? ["message"] = some (.string lint.message)
  line : o.2.at? ["line"] = some (.int lint.range.first.line.toNat)
  column : o.2.at? ["column"] = some (.int lint.range.first.column.toNat)
  begin_line : o.2.at? ["source_range", "begin", "line"] = some (.int lint.range.first.line.toNat)
  begin_column :
    o.2.at? ["source_range", "begin", "column"] = some (.int lint.range.first.column.toNat)
  end_line : o.2.at? ["source_range", "end", "line"] = some (.int lint.range.last.line.toNat)
  end_column : o.2.at? ["source_range", "end", "column"] = some (.int lint.range.last.column.toNat)

variable {lints : List Lint} {documents : List Path} {severities : SeverityTable}

theorem items_files (context : FormatterContext) (r : Report) :
    items (reportValue context r) "files" = r.groups.map fileValue := rfl

theorem items_offenses (group : Path × List Lint) :
    items (fileValue group) "offenses" = group.2.map offense := rfl

theorem tells_offense {group : Path × List Lint} {lint : Lint}
    (hgroup : group ∈ (Report.make lints documents severities).groups) (hlint : lint ∈ group.2) :
    Tells (Report.make lints documents severities).lints
      ((fileValue group).at? ["path"], offense lint) lint where
  path := by
    obtain ⟨first, hfirst, hpath⟩ := Option.map_eq_some_iff.1 (Report.find?_of_group hgroup hlint)
    refine ⟨first, hfirst, ?_⟩
    rw [hpath]
    rfl
  severity := rfl
  message := rfl
  line := rfl
  column := rfl
  begin_line := rfl
  begin_column := rfl
  end_line := rfl
  end_column := rfl

theorem forall₂_offenses (context : FormatterContext) (lints : List Lint) (documents : List Path)
    (severities : SeverityTable) :
    List.Forall₂ (Tells (Report.make lints documents severities).lints)
      (offenses (reportValue context (.make lints documents severities)))
      (Report.make lints documents severities).lints := by
  have hgroups : ∀ groups ⊆ (Report.make lints documents severities).groups,
      List.Forall₂ (Tells (Report.make lints documents severities).lints)
        ((groups.map fileValue).flatMap fun file ↦
          (items file "offenses").map fun o ↦ (file.at? ["path"], o))
        (groups.flatMap (·.2)) := by
    intro groups hsub
    induction groups with
    | nil => exact .nil
    | cons group groups ih =>
      rw [List.cons_subset] at hsub
      rw [List.map_cons, List.flatMap_cons, List.flatMap_cons, items_offenses, List.map_map]
      refine List.rel_append ?_ (ih hsub.2)
      exact List.forall₂_map_left_iff.2 (List.forall₂_same.2 fun lint hlint ↦
        tells_offense hsub.1 hlint)
  have hall := hgroups _ (List.Subset.refl _)
  rwa [Report.groups, Report.flatMap_groupByPath] at hall

theorem sum_offenses (context : FormatterContext) (r : Report) :
    ((items (reportValue context r) "files").map fun file ↦
      (items file "offenses").length).sum = r.lints.length := by
  have hlengths : (items (reportValue context r) "files").map
      (fun file ↦ (items file "offenses").length) = r.groups.map (·.2.length) := by
    rw [items_files, List.map_map]
    exact List.map_congr_left fun group _ ↦ by
      rw [Function.comp_apply, items_offenses, List.length_map]
  rw [hlengths, ← List.length_flatMap, Report.groups, Report.flatMap_groupByPath]

/-- Lints are sorted by file and line, otherwise in the order in which they came; there is one group
for each file, and the groups in their order make up the lints. The JSON value tells the lints one
by one in that order, and counts them and their files. -/
theorem reportValue_exact (context : FormatterContext) (lints : List Lint) (documents : List Path)
    (severities : SeverityTable) :
    let r := Report.make lints documents severities
    let v := reportValue context r
    (r.lints.Perm lints ∧
      (r.lints.Pairwise fun a b ↦ a.path.compare b.path = .lt ∨
        a.path.same b.path = true ∧ a.range.first.line ≤ b.range.first.line) ∧
      ∀ path line, r.lints.filter (Lint.sameLine path line) =
        lints.filter (Lint.sameLine path line)) ∧
    ((∀ group ∈ r.groups, group.2 ≠ [] ∧ ∀ lint ∈ group.2, lint.path.same group.1 = true) ∧
      Path.Ascending (r.groups.map (·.1)) ∧ r.groups.flatMap (·.2) = r.lints) ∧
    List.Forall₂ (Tells r.lints) (offenses v) r.lints ∧
    v.at? ["summary", "offense_count"] = some (.int (((items v "files").map fun file ↦
      (items file "offenses").length).sum : ℕ)) ∧
    v.at? ["summary", "offending_file_count"] =
      some (.int ((lints.map (·.path.components)).toFinset.card : ℕ)) := by
  intro r v
  have hcount : v.at? ["summary", "offense_count"] = some (.int (r.lints.length : ℕ)) := rfl
  have hfiles : v.at? ["summary", "offending_file_count"] = some (.int (r.groups.length : ℕ)) := rfl
  refine ⟨⟨List.mergeSort_perm lints _, Lint.pairwise_sort_lines lints,
    fun path line ↦ Lint.filter_sameLine_sort path line lints⟩,
    ⟨fun group hgroup ↦ ?_, Report.ascending_groups lints documents severities,
      Report.flatMap_groupByPath _⟩,
    forall₂_offenses context lints documents severities, ?_, ?_⟩
  · have hgroup := Report.isGroup_groupByPath _ group hgroup
    refine ⟨fun hnil ↦ ?_, hgroup.same⟩
    have hfirst := hgroup.first
    rw [hnil] at hfirst
    cases hfirst
  · rw [hcount, sum_offenses]
  · rw [hfiles, Report.length_groups]

end ReportJson

end LintEngine
