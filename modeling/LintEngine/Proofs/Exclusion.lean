import LintEngine.Proofs.Discovery

namespace LintEngine

namespace Path

variable {p q w : Path}

theorem current_not_mem_of_normalize (h : p.normalize = p) (hp : p.components ≠ [.current]) :
    Component.current ∉ p.components := by
  have htail := p.current_not_mem_tail
  cases hc : p.components with
  | nil => simp
  | cons c rest =>
    rw [hc, List.tail_cons] at htail
    rw [List.mem_cons, not_or]
    refine ⟨fun hcurrent ↦ hp ?_, htail⟩
    rw [← hcurrent, ← h] at hc
    rw [← h, hc, current_not_head_normalize hc]

theorem isAbsolute_of_startsWith (hq : q.text ≠ "") (hp : p.isAbsolute = true)
    (h : q.normalize.components <+: p.components) : q.isAbsolute = true := by
  obtain ⟨-, rest, -, hc⟩ | ⟨hp', -⟩ | ⟨hp', -⟩ := p.components_cases
  · rw [components_normalize, hc] at h
    rw [isAbsolute_iff_mem]
    rw [Ne, ← components_eq_nil_iff] at hq
    generalize q.components = l at hq h
    unfold dropCurrent at h
    split at h
    · next c rest' => simp_all
    · cases l with
      | nil => exact absurd rfl hq
      | cons c l => simp_all
  · rw [hp] at hp'
    cases hp'
  · rw [hp] at hp'
    cases hp'

/-- Whether a path without `.` begins with another one is decided by where the two lead from a
directory, if both are absolute or both are not. -/
theorem normalize_prefix_iff (hw : w.text ≠ "") (hq : q.text ≠ "")
    (hp : Component.current ∉ p.components) :
    q.normalize.components <+: p.components ↔ q.isAbsolute = p.isAbsolute ∧
      q.components ≠ [.current] ∧ (w.join p).startsWith (w.join q) = true := by
  by_cases hcurrent : q.components = [.current]
  · have hnot : ¬q.normalize.components <+: p.components := fun h ↦ by
      rw [components_normalize, hcurrent] at h
      exact hp (h.subset List.mem_cons_self)
    simp [hnot, hcurrent]
  · cases hpa : p.isAbsolute with
    | true =>
      cases hqa : q.isAbsolute with
      | true =>
        rw [normalize_of_isAbsolute hqa, join_of_isAbsolute hpa, join_of_isAbsolute hqa,
          startsWith_iff]
        simp [hcurrent]
      | false =>
        have hnot : ¬q.normalize.components <+: p.components := fun h ↦ by
          rw [isAbsolute_of_startsWith hq hpa h] at hqa
          cases hqa
        simp [hnot]
    | false =>
      cases hqa : q.isAbsolute with
      | true =>
        have hnot : ¬q.normalize.components <+: p.components := fun h ↦ by
          rw [normalize_of_isAbsolute hqa] at h
          rw [isAbsolute_iff_mem.2 (h.subset (isAbsolute_iff_mem.1 hqa))] at hpa
          cases hpa
        simp [hnot]
      | false =>
        rw [components_normalize, dropCurrent_eq_filter hcurrent, startsWith_iff,
          components_join hw hpa, components_join hw hqa, List.prefix_append_right_inj,
          filter_current hp]
        simp [hcurrent]

end Path

namespace FileTree

open LintEngine.Path

variable {tree : FileTree} {start f : Path} {content : ByteArray}

theorem Meets.exists_fileName (ht : tree.Proper) (h : tree.Meets start f (.file content)) :
    ∃ name, f.fileName? = some name := by
  obtain ⟨place, names, hl, hn, rfl⟩ := h
  rw [fileName?_normalize]
  cases names using List.reverseRecOn with
  | nil =>
    rw [List.append_nil] at hn
    obtain ⟨front, name, -, hs, hname, -, -⟩ :=
      locate_file ht.toWithoutLinks hl (by simp [isDirectoryAt, hn])
    exact ⟨name, fileName?_of_segments hs hname⟩
  | append_singleton names name =>
    refine ⟨name, ?_⟩
    rw [fileName?, components_below (text_ne_of_locate hl) (names_of_node? ht hn)]
    simp

end FileTree

namespace Search

open LintEngine.Path

variable {s : Search} {tree : FileTree} {files : List Path} {f : Path}

theorem Picks.current_not_mem (ht : tree.Proper) (h : s.Picks tree f) :
    Component.current ∉ f.components := by
  refine current_not_mem_of_normalize h.normalize_eq fun hc ↦ ?_
  obtain ⟨_, _, _, -, hoffers, -⟩ := h
  obtain ⟨_, _, hmeets⟩ := hoffers.meets
  obtain ⟨name, hname⟩ := hmeets.exists_fileName ht
  simp [fileName?, hc] at hname

theorem text_ne_of_exists {e : String} (h : tree.exists? (Path.mk e).normalize = true) :
    e ≠ "" := by
  rintro rfl
  have hn : (Path.mk "").normalize = ⟨""⟩ := rfl
  have hl : tree.lookup ⟨""⟩ = .error .notFound := rfl
  rw [hn, FileTree.exists?, hl] at h
  cases h

theorem workingDirectory_text_ne (tree : FileTree) : tree.workingDirectory.text ≠ "" := by
  simp [FileTree.workingDirectory, FileTree.pathOf]

theorem excludes_iff_without_paths :
    s.Excludes tree f ↔ ({ s with excludedPaths := [] } : Search).Excludes tree f ∨
      ∃ e ∈ s.excludedPaths, (Path.mk e).normalize.components <+: f.components := by
  simp [Excludes, or_comm]

section Spellings

/-- A search for the file `a/b`, seen from the working directory and from the root, with an excluded
path. -/
def leavingOut (excluded : String) : Search where
  includedPaths := ["a/b", "/a/b"]
  excludedPaths := [excluded]
  includedPatterns := []
  excludedPatterns := []
  extensions := []

theorem find_leavingOut {e : String} (he : oneFile.exists? (Path.mk e).normalize = true) :
    (leavingOut e).find oneFile =
      .ok ([⟨"/a/b"⟩, ⟨"a/b"⟩].filter fun file ↦ !file.startsWith (Path.mk e).normalize) := by
  have hn : (Path.mk "/a/b").normalize = ⟨"/a/b"⟩ := rfl
  obtain ⟨-, -, -, -, -, hl⟩ := locate_oneFile
  have hnode : oneFile.node? ["a", "b"] = some (.file ByteArray.empty) := rfl
  have hc : (Source.path "/a/b").candidates oneFile [] = .ok [⟨"/a/b"⟩] := by
    simp [Source.candidates, hn, filesAt, FileTree.isFile, FileTree.lookup, hl, hnode, bind,
      Except.bind]
  have hlt : (Path.mk "/a/b").compare ⟨"a/b"⟩ = .lt := rfl
  have hs : sortDistinct [⟨"a/b"⟩, ⟨"/a/b"⟩] = [⟨"/a/b"⟩, ⟨"a/b"⟩] :=
    sortDistinct_eq (List.pairwise_pair.2 hlt) (List.Perm.swap _ _ _)
  refine find_eq_ok.2 ⟨[[⟨"a/b"⟩], [⟨"/a/b"⟩]], [(Path.mk e).normalize], ⟨[]⟩, ?_, ?_, rfl, ?_⟩
  · simp [sources, leavingOut, hc, candidates_oneFile.1, bind, Except.bind, pure, Except.pure]
  · simp [leavingOut, checkExcluded, he, bind, Except.bind, pure, Except.pure]
  · simp [hs, isExcluded_without_globs]

theorem find_leavingOut_directory :
    (leavingOut "a").find oneFile = .ok [⟨"/a/b"⟩] ∧
    (leavingOut "/a").find oneFile = .ok [⟨"a/b"⟩] ∧
    (leavingOut ".").find oneFile = .ok [⟨"/a/b"⟩, ⟨"a/b"⟩] := by
  have hn : (Path.mk "a").normalize = ⟨"a"⟩ := rfl
  have hn' : (Path.mk "/a").normalize = ⟨"/a"⟩ := rfl
  have hn'' : (Path.mk ".").normalize = ⟨"."⟩ := rfl
  obtain ⟨hl, hl', hl'', -⟩ := locate_oneFile
  have hnode : oneFile.node? ["a"] = some .directory ∧ oneFile.node? [] = some .directory :=
    ⟨rfl, rfl⟩
  have he : ∀ e ∈ ["a", "/a", "."], oneFile.exists? (Path.mk e).normalize = true := by
    simp [hn, hn', hn'', FileTree.exists?, FileTree.lookup, hl, hl', hl'', hnode, bind, Except.bind,
      Except.toBool]
  rw [find_leavingOut (he "a" (by simp)), find_leavingOut (he "/a" (by simp)),
    find_leavingOut (he "." (by simp)), hn, hn', hn'']
  exact ⟨rfl, rfl, rfl⟩

end Spellings

/-- An excluded path leaves out what lies at or below it. It does so only for files that are written
like itself, from the root or from the working directory, and not where it is the working directory,
written `.`. -/
theorem mem_find_iff_of_excludedPaths (ht : tree.Proper) (h : s.find tree = .ok files) :
    ∃ all, ({ s with excludedPaths := [] } : Search).find tree = .ok all ∧
      ∀ f, f ∈ files ↔ f ∈ all ∧ ∀ e ∈ s.excludedPaths,
        (Path.mk e).isAbsolute = f.isAbsolute → (Path.mk e).components ≠ [.current] →
        (tree.workingDirectory.join f).startsWith (tree.workingDirectory.join ⟨e⟩) = false := by
  have hs := (exists_find_iff ht).1 ⟨files, h⟩
  have hs' : ({ s with excludedPaths := [] } : Search).Findable tree :=
    ⟨hs.sources, fun _ he ↦ absurd he List.not_mem_nil, hs.excludedPatterns⟩
  obtain ⟨all, hall⟩ := (exists_find_iff ht).2 hs'
  refine ⟨all, hall, fun f ↦ ?_⟩
  have hpicks : ({ s with excludedPaths := [] } : Search).Picks tree f ↔ s.Picks tree f := .rfl
  rw [mem_find ht h, mem_find ht hall, hpicks, excludes_iff_without_paths, not_or, and_assoc]
  refine and_congr_right fun hf ↦ and_congr_right fun _ ↦ ?_
  rw [not_exists]
  refine forall_congr' fun e ↦ ?_
  rw [not_and]
  refine forall_congr' fun he ↦ ?_
  rw [normalize_prefix_iff (workingDirectory_text_ne tree)
    (text_ne_of_exists (hs.excludedPaths e he)) (hf.current_not_mem ht)]
  simp

theorem mem_find_iff_leavingOut_directory :
    oneFile.Proper ∧ (leavingOut "a").find oneFile = .ok [⟨"/a/b"⟩] ∧
    ∃ all, ({ leavingOut "a" with excludedPaths := [] } : Search).find oneFile = .ok all ∧
      ∀ f, f ∈ [(⟨"/a/b"⟩ : Path)] ↔ f ∈ all ∧ ∀ e ∈ (leavingOut "a").excludedPaths,
        (Path.mk e).isAbsolute = f.isAbsolute → (Path.mk e).components ≠ [.current] →
        (oneFile.workingDirectory.join f).startsWith (oneFile.workingDirectory.join ⟨e⟩) = false :=
  ⟨oneFile_proper, find_leavingOut_directory.1,
    mem_find_iff_of_excludedPaths oneFile_proper find_leavingOut_directory.1⟩

/-- A file is found below an excluded directory if one is seen from the root and the other is not,
and below the working directory. -/
theorem find_below_excluded :
    (leavingOut "a").find oneFile = .ok [⟨"/a/b"⟩] ∧
    (leavingOut "/a").find oneFile = .ok [⟨"a/b"⟩] ∧
    (leavingOut ".").find oneFile = .ok [⟨"/a/b"⟩, ⟨"a/b"⟩] ∧
    ∀ f ∈ [(⟨"a/b"⟩ : Path), ⟨"/a/b"⟩], ∀ e ∈ ["a", "/a", "."],
      (oneFile.workingDirectory.join f).startsWith (oneFile.workingDirectory.join ⟨e⟩) = true := by
  obtain ⟨hfind, hfind', hfind''⟩ := find_leavingOut_directory
  refine ⟨hfind, hfind', hfind'', fun f hf e he ↦ ?_⟩
  have hw := workingDirectory_text_ne oneFile
  have hroot : oneFile.workingDirectory.components = [.root] := by decide +kernel
  have hfile : (oneFile.workingDirectory.join f).components = [.root, .name "a", .name "b"] := by
    rcases List.mem_pair.1 hf with rfl | rfl
    · rw [components_join hw rfl, hroot]
      rfl
    · rw [join_of_isAbsolute rfl]
      rfl
  rw [startsWith_iff, hfile]
  simp only [List.mem_cons, List.not_mem_nil, or_false] at he
  rcases he with rfl | rfl | rfl
  · rw [components_join hw rfl, hroot]
    exact ⟨[.name "b"], rfl⟩
  · rw [join_of_isAbsolute rfl]
    exact ⟨[.name "b"], rfl⟩
  · rw [components_join hw rfl, hroot]
    exact ⟨[.name "a", .name "b"], rfl⟩

end Search

end LintEngine
