import LintEngine.Document.Load
import LintEngine.Proofs.Activation
import LintEngine.Proofs.Exclusion
import LintEngine.Proofs.SuffixPatterns

namespace LintEngine

namespace Path

open FileTree

variable {names : List String} {name extension : String}

theorem segments_below_current (h : ∀ s ∈ names, IsName s) :
    segments ((Path.mk ".").below names) = "." :: names := by
  induction names using List.reverseRecOn with
  | nil => rfl
  | append_singleton names name ih =>
    have hnames : ∀ s ∈ names, IsName s := fun s hs ↦ h s (List.mem_append_left _ hs)
    have hname : IsName name := h name (by simp)
    have hsegments : segments ⟨name⟩ = [name] := by
      simp [segments, splitSlashes_of_not_mem hname.no_slash]
    have htext : ((Path.mk ".").below names).text ≠ "" := by
      rw [Ne, ← components_eq_nil_iff, components_below (by simp) hnames]
      simp [components_current]
    have hbelow : (Path.mk ".").below (names ++ [name]) =
        ((Path.mk ".").below names).join ⟨name⟩ := by simp [below]
    obtain ⟨front, hjoin, hfront | hfront⟩ :=
      segments_join_directory htext (isAbsolute_of_isName hname)
    · rw [hbelow, hjoin, hsegments, ← hfront, ih hnames, List.cons_append]
    · -- Neither `.` nor a name is empty, so that no slash stands at the end.
      have hmem : "" ∈ "." :: names := by
        rw [← ih hnames, hfront]
        simp
      have hempty : "" ∈ names := by simpa using hmem
      have hskips := (hnames "" hempty).not_skips
      cases hskips

theorem normalize_below_current (hne : names ≠ []) (h : ∀ s ∈ names, IsName s) :
    ((Path.mk ".").below names).normalize = ofNames names := by
  have hdotted : (Path.mk ".").below names = (join ⟨"."⟩)^[1] (ofNames names) := by
    have hsegments := (segments_below_current h).trans (segments_dotted hne h 1).1.symm
    rw [Path.mk.injEq, ← intercalate_segments, hsegments, intercalate_segments]
  rw [hdotted, normalize_dotted hne h]

theorem toList_ofNames_concat : ∃ front, (ofNames (names ++ [name])).text.toList =
    front ++ name.toList ∧ (front = [] ∨ ∃ before, front = before ++ ['/']) := by
  induction names with
  | nil => exact ⟨[], by simp [ofNames], .inl rfl⟩
  | cons first names ih =>
    obtain ⟨front, htext, hfront⟩ := ih
    refine ⟨first.toList ++ '/' :: front, ?_, .inr ?_⟩
    · cases names <;> simp_all [ofNames, String.toList_intercalate]
    · obtain rfl | ⟨before, rfl⟩ := hfront
      · exact ⟨first.toList, rfl⟩
      · exact ⟨first.toList ++ '/' :: before, by simp⟩

theorem suffix_ofNames_iff {cs : List Char} (hslash : '/' ∉ cs) :
    cs <:+ (ofNames (names ++ [name])).text.toList ↔ cs <:+ name.toList := by
  obtain ⟨front, htext, rfl | ⟨before, rfl⟩⟩ := @toList_ofNames_concat names name
  · rw [htext, List.nil_append]
  · rw [htext, List.append_assoc, List.singleton_append]
    constructor
    · intro h
      obtain hlong | hshort := List.suffix_or_suffix_of_suffix h (List.suffix_append before _)
      · obtain rfl | hname := List.suffix_cons_iff.1 hlong
        · exact absurd List.mem_cons_self hslash
        · exact hname
      · exact absurd (hshort.subset List.mem_cons_self) hslash
    · intro h
      exact (h.trans (List.suffix_cons '/' _)).trans (List.suffix_append before _)

/-- An extension is what follows the last dot, where something stands before that dot. -/
theorem extensionOf?_eq_some : extensionOf? name = some extension ↔
    '.' ∉ extension.toList ∧ ∃ stem ≠ [], name.toList = stem ++ '.' :: extension.toList := by
  unfold extensionOf?
  dsimp only
  constructor
  · intro h
    split at h
    · cases h
    · cases h
    · next dot c rest hdrop =>
      obtain rfl := Option.some.inj h
      have hdot : dot = '.' := by
        have hhead := List.head?_dropWhile_not (fun c ↦ decide (c ≠ '.')) name.toList.reverse
        rw [hdrop] at hhead
        simpa using hhead
      have hsplit := List.takeWhile_append_dropWhile (p := (· ≠ '.')) (l := name.toList.reverse)
      rw [hdrop, hdot] at hsplit
      refine ⟨?_, (c :: rest).reverse, by simp, ?_⟩
      · intro hmem
        have hne := List.mem_takeWhile_imp (List.mem_reverse.1 (by simpa using hmem))
        simp at hne
      · calc name.toList = name.toList.reverse.reverse := (List.reverse_reverse _).symm
          _ = _ := by rw [← hsplit, List.reverse_append, List.reverse_cons, String.toList_ofList,
            hsplit, List.append_assoc, List.singleton_append]
  · rintro ⟨hdot, stem, hstem, hname⟩
    have hreverse : name.toList.reverse = extension.toList.reverse ++ '.' :: stem.reverse := by
      simp [hname]
    have hall : ∀ c ∈ extension.toList.reverse, decide (c ≠ '.') = true := by
      intro c hc
      have hmem := List.mem_reverse.1 hc
      exact decide_eq_true fun he ↦ hdot (he ▸ hmem)
    have hdrop : name.toList.reverse.dropWhile (· ≠ '.') = '.' :: stem.reverse := by
      rw [hreverse, List.dropWhile_append_of_pos hall]
      rfl
    have htake : name.toList.reverse.takeWhile (· ≠ '.') = extension.toList.reverse := by
      rw [hreverse, List.takeWhile_append_of_pos hall]
      simp
    cases hs : stem.reverse with
    | nil => exact absurd (List.reverse_eq_nil_iff.1 hs) hstem
    | cons c rest =>
      rw [hdrop, htake, hs]
      simp

theorem suffix_name_iff (hdot : '.' ∉ extension.toList) :
    '.' :: extension.toList <:+ name.toList ↔
      extensionOf? name = some extension ∨ name = "." ++ extension := by
  rw [extensionOf?_eq_some, ← String.toList_inj]
  constructor
  · rintro ⟨stem, hstem⟩
    by_cases hne : stem = []
    · exact .inr (by simp [← hstem, hne])
    · exact .inl ⟨hdot, stem, hne, hstem.symm⟩
  · rintro (⟨-, stem, -, hname⟩ | hname)
    · exact ⟨stem, hname.symm⟩
    · simp [hname]

theorem extensionOf?_dot (hdot : '.' ∉ extension.toList) :
    extensionOf? ("." ++ extension) = none := by
  rw [Option.eq_none_iff_forall_ne_some]
  intro other hother
  obtain ⟨-, stem, hstem, hname⟩ := extensionOf?_eq_some.1 hother
  cases stem with
  | nil => exact hstem rfl
  | cons c stem =>
    have htail : extension.toList = stem ++ '.' :: other.toList := by
      rw [String.toList_append] at hname
      exact (List.cons.inj hname).2
    exact hdot (by simp [htail])

end Path

open LintEngine.Path

variable {tree : FileTree} {f : Path} {content : ByteArray}

theorem FileTree.Meets.exists_ofNames (ht : tree.Proper)
    (h : tree.Meets ⟨"."⟩ f (.file content)) :
    ∃ names name, f = ofNames (names ++ [name]) ∧ f.fileName? = some name := by
  obtain ⟨place, names, hl, hn, rfl⟩ := h
  have hnames := names_of_node? ht hn
  cases names using List.reverseRecOn with
  | nil =>
    -- What `.` leads to is no file, for a file is reached by its name.
    rw [List.append_nil] at hn
    obtain ⟨front, name, -, hs, hname, -, -⟩ :=
      locate_file ht.toWithoutLinks hl (by simp [isDirectoryAt, hn])
    have hdot : segments ⟨"."⟩ = [] ++ ["."] := rfl
    obtain ⟨-, hlast⟩ := List.append_inj' (hdot.symm.trans hs) rfl
    cases (List.cons.inj hlast).1
    cases hname.not_skips
  | append_singleton names name =>
    have hname : IsName name := hnames name (by simp)
    refine ⟨names, name, normalize_below_current (by simp) hnames, ?_⟩
    have hsegments : segments ((Path.mk ".").below (names ++ [name])) = ("." :: names) ++ [name] :=
      segments_below_current hnames
    rw [fileName?_normalize, fileName?_of_segments hsegments hname]

theorem FileTree.Meets.isDirectory_current {node : Node} (ht : tree.Proper)
    (h : tree.Meets ⟨"."⟩ f node) : tree.isDirectory ⟨"."⟩ = true := by
  obtain ⟨place, names, hl, -, -⟩ := h
  have hdescend : tree.descend tree.workingPlace "." = .ok place := by
    simpa [startOf, segments, splitSlashes, isAbsolute] using foldlM_of_locate ht.toWithoutLinks hl
  have hdot : skips "." = true := rfl
  by_cases hdir : tree.isDirectoryAt tree.workingPlace = true
  · obtain rfl : tree.workingPlace = place := by simpa [descend, hdir, hdot] using hdescend
    unfold isDirectoryAt at hdir
    split at hdir
    · next hnode => simp [isDirectory, lookup, hl, hnode, bind, Except.bind]
    · cases hdir
  · simp [descend, hdir] at hdescend

namespace Search

variable {s : Search} {extensions : List String} {extension : String}

/-- An extension that stands for itself in a pattern. -/
structure IsPlain (extension : String) : Prop where
  nonempty : extension ≠ ""
  no_dot : '.' ∉ extension.toList
  no_slash : '/' ∉ extension.toList
  not_special : ∀ c ∈ extension.toList, Glob.isSpecial c = false

def isBare (extensions : List String) (f : Path) : Bool :=
  extensions.any fun extension ↦ f.fileName? == some ("." ++ dropDots extension)

theorem IsPlain.matchesText_iff (ht : tree.Proper) (he : IsPlain extension)
    (h : tree.Meets ⟨"."⟩ f (.file content)) :
    Glob.matchesText (Glob.endingWith ("." ++ extension).toList) f = true ↔
      f.extension? = some extension ∨ f.fileName? = some ("." ++ extension) := by
  obtain ⟨names, name, hf, hname⟩ := h.exists_ofNames ht
  have htext : ("." ++ extension).toList = '.' :: extension.toList := by simp
  have hslash : '/' ∉ '.' :: extension.toList := by simpa using he.no_slash
  have hne : extension.toList ≠ [] := by simpa using he.nonempty
  have hlast : ("." ++ extension).toList.getLast? = some (extension.toList.getLast hne) := by
    rw [htext, List.getLast?_cons_of_ne_nil hne, List.getLast?_eq_some_getLast hne]
  have hdot : extension.toList.getLast hne ≠ '.' := fun he' ↦
    he.no_dot (he' ▸ List.getLast_mem hne)
  rw [Glob.matchesText_endingWith hlast hdot, htext, extension?, hname, hf,
    suffix_ofNames_iff hslash, suffix_name_iff he.no_dot]
  simp

theorem pattern_eq (extension : String) : "**/*." ++ extension = "**/*" ++ ("." ++ extension) := by
  rw [← String.append_assoc]
  rfl

theorem IsPlain.compile_eq (he : IsPlain extension) :
    Glob.compile ("**/*." ++ extension) = .ok (Glob.endingWith ("." ++ extension).toList) := by
  rw [pattern_eq]
  refine Glob.compile_endingWith ?_ (by simpa using he.no_slash)
  rw [String.toList_append, List.forall_mem_append]
  exact ⟨by simp [Glob.isSpecial], he.not_special⟩

theorem IsPlain.walkStart_eq (he : IsPlain extension) :
    walkStart (Path.mk ("**/*." ++ extension)).normalize = ⟨"."⟩ := by
  rw [pattern_eq]
  exact Glob.walkStart_endingWith (by simpa using he.no_slash)

theorem offers_pattern_iff (ht : tree.Proper) (he : IsPlain extension) :
    (Source.pattern ("**/*." ++ extension)).Offers tree extensions f ↔
      ∃ content, tree.Meets ⟨"."⟩ f (.file content) ∧
        (f.extension? = some extension ∨ f.fileName? = some ("." ++ extension)) := by
  constructor
  · intro hoffers
    cases hoffers with
    | matching hglob hmeets hmatch =>
      rw [he.walkStart_eq] at hmeets
      rw [← Except.ok.inj (he.compile_eq.symm.trans hglob)] at hmatch
      exact ⟨_, hmeets, (he.matchesText_iff ht hmeets).1 hmatch⟩
  · rintro ⟨content, hmeets, hname⟩
    have hmatch := (he.matchesText_iff ht hmeets).2 hname
    rw [← he.walkStart_eq] at hmeets
    exact .matching he.compile_eq hmeets hmatch

theorem offers_current_iff (hw : tree.isDirectory ⟨"."⟩ = true) :
    (Source.path ".").Offers tree extensions f ↔
      ∃ content, tree.Meets ⟨"."⟩ f (.file content) ∧
        ∃ extension ∈ extensions, f.extension? = some (dropDots extension) := by
  have hcurrent : (Path.mk ".").normalize = ⟨"."⟩ := rfl
  constructor
  · rintro (hfile | ⟨-, hmeets, hmem, hrest, hext⟩)
    · rw [hcurrent, Source.not_isFile_of_isDirectory hw] at hfile
      cases hfile
    · rw [undots_iff.1 hrest] at hext
      exact ⟨_, hmeets, _, hmem, hext⟩
  · rintro ⟨content, hmeets, extension, hmem, hext⟩
    exact .below hw hmeets hmem (undots_iff.2 rfl) hext

theorem spelledOnce_of_meets (start : Path) (ht : tree.Proper)
    (h : ∀ source ∈ s.sources, ∀ f, source.Offers tree s.extensions f →
      ∃ content, tree.Meets start f (.file content)) : s.SpelledOnce tree := by
  intro source hsource source' hsource' f g hf hg hsame
  obtain ⟨_, hmeets⟩ := h source hsource f hf
  obtain ⟨_, hmeets'⟩ := h source' hsource' g hg
  exact meets_unique ht hmeets hmeets' hsame

theorem isBare_iff : isBare extensions f = true ↔
    ∃ extension ∈ extensions, f.fileName? = some ("." ++ dropDots extension) := by
  simp [isBare]

theorem extension?_of_isBare (hplain : ∀ e ∈ extensions, IsPlain (dropDots e))
    (h : isBare extensions f = true) : f.extension? = none := by
  obtain ⟨e, hmem, hname⟩ := isBare_iff.1 h
  rw [extension?, hname, Option.bind_some, extensionOf?_dot (hplain e hmem).no_dot]

def atCurrent (s : Search) : Search := { s with includedPaths := ["."], includedPatterns := [] }

def byExtensions (s : Search) : Search :=
  { s with
    includedPaths := []
    includedPatterns := s.extensions.map fun extension ↦ "**/*." ++ dropDots extension }

theorem picks_atCurrent_iff (ht : tree.Proper) (hw : tree.isDirectory ⟨"."⟩ = true) :
    s.atCurrent.Picks tree f ↔ ∃ content, tree.Meets ⟨"."⟩ f (.file content) ∧
      ∃ extension ∈ s.extensions, f.extension? = some (dropDots extension) := by
  have hoffers (source : Source) (g : Path) (hmem : source ∈ s.atCurrent.sources) :
      source.Offers tree s.extensions g ↔ ∃ content, tree.Meets ⟨"."⟩ g (.file content) ∧
        ∃ extension ∈ s.extensions, g.extension? = some (dropDots extension) := by
    obtain rfl : source = .path "." := by simpa [sources, atCurrent] using hmem
    exact offers_current_iff hw
  have hspelled : s.atCurrent.SpelledOnce tree := by
    refine spelledOnce_of_meets ⟨"."⟩ ht fun source hmem g hg ↦ ?_
    obtain ⟨content, hmeets, -⟩ := (hoffers source g hmem).1 hg
    exact ⟨content, hmeets⟩
  rw [hspelled.picks_iff]
  constructor
  · rintro ⟨source, hmem, hf⟩
    exact (hoffers source f hmem).1 hf
  · intro hf
    have hmem : Source.path "." ∈ s.atCurrent.sources := by simp [sources, atCurrent]
    exact ⟨_, hmem, (hoffers _ f hmem).2 hf⟩

theorem picks_byExtensions_iff (ht : tree.Proper)
    (hplain : ∀ e ∈ s.extensions, IsPlain (dropDots e)) :
    s.byExtensions.Picks tree f ↔ ∃ content, tree.Meets ⟨"."⟩ f (.file content) ∧
      ((∃ extension ∈ s.extensions, f.extension? = some (dropDots extension)) ∨
        isBare s.extensions f = true) := by
  have hsource {source : Source} : source ∈ s.byExtensions.sources ↔
      ∃ e ∈ s.extensions, source = .pattern ("**/*." ++ dropDots e) := by
    simp [sources, byExtensions, eq_comm]
  have hspelled : s.byExtensions.SpelledOnce tree := by
    refine spelledOnce_of_meets ⟨"."⟩ ht fun source hmem g hg ↦ ?_
    obtain ⟨e, he, rfl⟩ := hsource.1 hmem
    obtain ⟨content, hmeets, -⟩ := (offers_pattern_iff ht (hplain e he)).1 hg
    exact ⟨content, hmeets⟩
  rw [hspelled.picks_iff, isBare_iff]
  constructor
  · rintro ⟨source, hmem, hf⟩
    obtain ⟨e, he, rfl⟩ := hsource.1 hmem
    obtain ⟨content, hmeets, hext | hname⟩ := (offers_pattern_iff ht (hplain e he)).1 hf
    · exact ⟨content, hmeets, .inl ⟨e, he, hext⟩⟩
    · exact ⟨content, hmeets, .inr ⟨e, he, hname⟩⟩
  · rintro ⟨content, hmeets, ⟨e, he, hext⟩ | ⟨e, he, hname⟩⟩
    · exact ⟨_, hsource.2 ⟨e, he, rfl⟩,
        (offers_pattern_iff ht (hplain e he)).2 ⟨content, hmeets, .inl hext⟩⟩
    · exact ⟨_, hsource.2 ⟨e, he, rfl⟩,
        (offers_pattern_iff ht (hplain e he)).2 ⟨content, hmeets, .inr hname⟩⟩

theorem isDirectory_of_findable (ht : tree.Proper)
    (hplain : ∀ e ∈ s.extensions, IsPlain (dropDots e)) (hne : s.extensions ≠ [])
    (h : s.byExtensions.Findable tree) : tree.isDirectory ⟨"."⟩ = true := by
  obtain ⟨e, he⟩ := List.exists_mem_of_ne_nil _ hne
  have hmem : Source.pattern ("**/*." ++ dropDots e) ∈ s.byExtensions.sources := by
    simpa [Search.sources, byExtensions] using ⟨e, he, rfl⟩
  obtain ⟨-, -, f, node, hmeets, -⟩ := h.sources _ hmem
  rw [(hplain e he).walkStart_eq] at hmeets
  exact hmeets.isDirectory_current ht

theorem findable_atCurrent (hw : tree.isDirectory ⟨"."⟩ = true)
    (h : s.byExtensions.Findable tree) : s.atCurrent.Findable tree where
  sources source hmem := by
    obtain rfl : source = .path "." := by simpa [Search.sources, atCurrent] using hmem
    exact .inr hw
  excludedPaths := h.excludedPaths
  excludedPatterns := h.excludedPatterns

end Search

namespace SourceFiles

variable {a : Application} {c : Configuration} {options : RunOptions} {s : Search}
  {extensions : List String} {files : List Path}

theorem search_without_paths (hinclude : (c.get? "include").all Value.isNull = true)
    (hpaths : c.strings "included_paths" = .ok []) (hoptions : options.includedPaths = [])
    (h : search a c options = .ok s) :
    SourceFiles.extensions a c = .ok s.extensions ∧ s = s.byExtensions ∧
      search a c { options with includedPaths := ["."] } = .ok s.atCurrent := by
  have hpatterns (extensions includedPaths : List String) :
      patterns c extensions includedPaths = .ok (if includedPaths.isEmpty then
        extensions.map fun extension ↦ "**/*." ++ Search.dropDots extension else []) :=
    if_pos hinclude
  simp only [search, hoptions, List.isEmpty_nil, if_true, hpaths, hpatterns,
    Result.bind_eq_ok] at h
  obtain ⟨extensions, hextensions, _, ⟨⟩, excludedPaths, hexcluded, _, ⟨⟩, excludedPatterns,
    hexclude, ⟨⟩⟩ := h
  refine ⟨hextensions, rfl, ?_⟩
  simp only [search, hextensions, hexcluded, hexclude, hpatterns]
  rfl

/-- A run that is given no paths finds what a run on the working directory finds, and besides the
files that are named like an extension with its dot and are not left out. -/
theorem find_without_paths (ht : tree.Proper)
    (hinclude : (c.get? "include").all Value.isNull = true)
    (hpaths : c.strings "included_paths" = .ok [])
    (hextensions : SourceFiles.extensions a c = .ok extensions)
    (hplain : ∀ e ∈ extensions, Search.IsPlain (Search.dropDots e))
    (hw : extensions = [] → tree.isDirectory ⟨"."⟩ = true)
    (hoptions : options.includedPaths = [])
    (h : (search a c options >>= (·.find tree)) = .ok files) :
    ∃ s files', search a c { options with includedPaths := ["."] } = .ok s ∧
      s.find tree = .ok files' ∧
      files' = files.filter (fun f ↦ !Search.isBare extensions f) ∧ Path.Ascending files ∧
      ∀ f, f ∈ files ↔ f ∈ files' ∨ Search.isBare extensions f = true ∧
        (∃ content, tree.Meets ⟨"."⟩ f (.file content)) ∧ ¬s.Excludes tree f := by
  obtain ⟨s, hs, hfind⟩ := Result.bind_eq_ok.1 h
  obtain ⟨hs', heq, hcurrent⟩ := search_without_paths hinclude hpaths hoptions hs
  obtain rfl := Except.ok.inj (hextensions.symm.trans hs')
  rw [heq] at hfind
  have hfindable := (Search.exists_find_iff ht).1 ⟨files, hfind⟩
  have hdir : tree.isDirectory ⟨"."⟩ = true := by
    by_cases hne : s.extensions = []
    · exact hw hne
    · exact Search.isDirectory_of_findable ht hplain hne hfindable
  obtain ⟨files', hfind'⟩ :=
    (Search.exists_find_iff ht).2 (Search.findable_atCurrent hdir hfindable)
  have hmem (f : Path) : f ∈ files ↔ (∃ content, tree.Meets ⟨"."⟩ f (.file content) ∧
      ((∃ e ∈ s.extensions, f.extension? = some (Search.dropDots e)) ∨
        Search.isBare s.extensions f = true)) ∧ ¬s.atCurrent.Excludes tree f := by
    rw [Search.mem_find ht hfind, Search.picks_byExtensions_iff ht hplain]
    rfl
  have hmem' (f : Path) : f ∈ files' ↔ (∃ content, tree.Meets ⟨"."⟩ f (.file content) ∧
      ∃ e ∈ s.extensions, f.extension? = some (Search.dropDots e)) ∧
        ¬s.atCurrent.Excludes tree f := by
    rw [Search.mem_find ht hfind', Search.picks_atCurrent_iff ht hdir]
  refine ⟨s.atCurrent, files', hcurrent, hfind', ?_, Search.ascending_find hfind, fun f ↦ ?_⟩
  · refine (Search.ascending_find hfind').eq_of_mem_iff ((Search.ascending_find hfind).filter _)
      fun f ↦ ?_
    have hbare := @Search.extension?_of_isBare f s.extensions hplain
    rw [List.mem_filter, hmem, hmem', Bool.not_eq_true', ← Bool.not_eq_true]
    grind
  · rw [hmem, hmem']
    grind

def textFiles : FileTree where
  nodes := [([".txt"], .file ByteArray.empty), (["a.txt"], .file ByteArray.empty),
    (["b"], .file ByteArray.empty)]
  workingPlace := []

theorem textFiles_proper : textFiles.Proper where
  toWithoutLinks := .of_nodes (by simp [textFiles]) (by decide) (by simp [textFiles])
  distinct := by simp [textFiles]
  names := by
    have hnames : IsName ".txt" ∧ IsName "a.txt" ∧ IsName "b" :=
      ⟨⟨rfl, by simp, by simp⟩, ⟨rfl, by simp, by simp⟩, rfl, by simp, by simp⟩
    simp [textFiles, hnames]

theorem isPlain_txt : Search.IsPlain "txt" :=
  ⟨by simp, by simp, by simp, by simp [Glob.isSpecial]⟩

theorem candidates_textFiles : (Search.Source.pattern "**/*.txt").candidates textFiles ["txt"] =
    .ok [⟨".txt"⟩, ⟨"a.txt"⟩] := by
  have hpattern : "**/*.txt" = "**/*." ++ "txt" := rfl
  have hwalk : textFiles.walk ⟨"."⟩ = [⟨⟨"."⟩, false⟩, ⟨⟨"./.txt"⟩, true⟩, ⟨⟨"./a.txt"⟩, true⟩,
      ⟨⟨"./b"⟩, true⟩] := by
    have hlocate : textFiles.locate .keepLink ⟨"."⟩ = .ok [] := by
      rw [FileTree.locate_keepLink textFiles_proper.toWithoutLinks,
        FileTree.locate_eq_ok textFiles_proper.toWithoutLinks]
      decide
    rw [FileTree.walk, hlocate]
    decide +kernel
  have hentries : Search.matchingEntries textFiles ⟨[Glob.endingWith ("." ++ "txt").toList]⟩
      ⟨"."⟩ = [⟨⟨".txt"⟩, true⟩, ⟨⟨"a.txt"⟩, true⟩] := by
    rw [Search.matchingEntries, hwalk]
    decide +kernel
  rw [hpattern]
  refine Search.Source.candidates_pattern.2 ⟨_, isPlain_txt.compile_eq, ?_⟩
  rw [isPlain_txt.walkStart_eq, hentries]
  exact ⟨by simp, rfl⟩

theorem find_textFiles : (search Application.clashingApplication .empty .none >>=
    (·.find textFiles)) = .ok [⟨".txt"⟩, ⟨"a.txt"⟩] := by
  have hsearch : search Application.clashingApplication .empty .none =
      .ok ⟨[], [], ["**/*.txt"], [], ["txt"]⟩ := rfl
  have hlt : (Path.mk ".txt").compare ⟨"a.txt"⟩ = .lt := rfl
  have hsort : Search.sortDistinct [⟨".txt"⟩, ⟨"a.txt"⟩] = [⟨".txt"⟩, ⟨"a.txt"⟩] :=
    Search.sortDistinct_eq (List.pairwise_pair.2 hlt) (List.Perm.refl _)
  refine Result.bind_eq_ok.2 ⟨_, hsearch, Search.find_eq_ok.2
    ⟨[[⟨".txt"⟩, ⟨"a.txt"⟩]], [], ⟨[]⟩, ?_, rfl, rfl, ?_⟩⟩
  · simp [Search.sources, candidates_textFiles, bind, Except.bind, pure, Except.pure]
  · simp [hsort, Search.isExcluded_without_globs]

theorem find_without_paths_textFiles :
    textFiles.Proper ∧ (search Application.clashingApplication .empty .none >>=
      (·.find textFiles)) = .ok [⟨".txt"⟩, ⟨"a.txt"⟩] ∧
    ∃ s files', search Application.clashingApplication .empty
        { RunOptions.none with includedPaths := ["."] } = .ok s ∧
      s.find textFiles = .ok files' ∧
      files' = [⟨".txt"⟩, ⟨"a.txt"⟩].filter (fun f ↦ !Search.isBare ["txt"] f) ∧
      Path.Ascending [⟨".txt"⟩, ⟨"a.txt"⟩] ∧
      ∀ f, f ∈ [(⟨".txt"⟩ : Path), ⟨"a.txt"⟩] ↔ f ∈ files' ∨ Search.isBare ["txt"] f = true ∧
        (∃ content, textFiles.Meets ⟨"."⟩ f (.file content)) ∧ ¬s.Excludes textFiles f := by
  have hdrop : Search.dropDots "txt" = "txt" := rfl
  have hplain : ∀ e ∈ ["txt"], Search.IsPlain (Search.dropDots e) := by
    rw [List.forall_mem_singleton, hdrop]
    exact isPlain_txt
  exact ⟨textFiles_proper, find_textFiles,
    find_without_paths textFiles_proper rfl rfl rfl hplain (by simp) rfl find_textFiles⟩

end SourceFiles

end LintEngine
