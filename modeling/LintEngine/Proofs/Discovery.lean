import LintEngine.Proofs.Encoding
import LintEngine.Proofs.FoundFiles
import LintEngine.Proofs.Related
import LintEngine.Proofs.Walks

namespace LintEngine

open LintEngine.Path

/-- The spellings of a file that patterns are compared with: the one that it has, the one seen from
the directory `w` if it is relative, and what it is below that directory if it is absolute. -/
inductive Path.IsForm (w f : Path) : Path → Prop
  | own : IsForm w f f
  | joined : f.isAbsolute = false → IsForm w f (w.join f)
  | stripped {rest : Path} : f.isAbsolute = true → f.strip? w = some rest → IsForm w f rest

theorem Path.isForm_iff {w f form : Path} :
    IsForm w f form ↔ form = f ∨ f.otherSpelling? w = some form := by
  unfold otherSpelling?
  constructor
  · rintro (_ | h | ⟨h, hstrip⟩)
    · exact .inl rfl
    · exact .inr (by rw [h, if_neg Bool.false_ne_true])
    · exact .inr (by rw [h, if_pos rfl, hstrip])
  · rintro (rfl | h)
    · exact .own
    · split at h
      · next habs => exact .stripped habs h
      · next habs =>
        cases h
        exact .joined (by simpa using habs)

theorem Glob.Any.matchesFile_nil (w f : Path) : (Any.mk []).matchesFile w f = false := by
  have hnone : Any.matchesText ⟨[]⟩ = fun _ ↦ false := rfl
  simp [matchesFile, matchesEither, hnone]

namespace Search

variable {s s' : Search} {tree : FileTree} {files : List Path} {f g : Path}
  {extensions : List String}

/-- A path or a pattern that a search includes. -/
inductive Source where
  | path (text : String)
  | pattern (text : String)
deriving DecidableEq

def sources (s : Search) : List Source :=
  s.includedPaths.map .path ++ s.includedPatterns.map .pattern

/-- There is a file or a directory at the path, or the pattern can be read and matches something
that its walk meets. -/
def Source.Available (tree : FileTree) : Source → Prop
  | .path text => tree.isFile (Path.mk text).normalize = true ∨
      tree.isDirectory (Path.mk text).normalize = true
  | .pattern text => ∃ glob, Glob.compile text = .ok glob ∧ ∃ f node,
      tree.Meets (walkStart (Path.mk text).normalize) f node ∧ Glob.matchesText glob f = true

/-- `rest` is what follows the dots at the start of an extension. -/
def Undots (extension rest : String) : Prop :=
  ∃ n, extension.toList = List.replicate n '.' ++ rest.toList ∧ rest.toList.head? ≠ some '.'

theorem undots_iff {extension rest : String} :
    Undots extension rest ↔ rest = dropDots extension := by
  rw [dropDots, ← String.toList_inj, String.toList_ofList]
  constructor
  · rintro ⟨n, h, hhead⟩
    rw [h, List.dropWhile_append_of_pos (by simp), List.dropWhile_eq_self_iff.2]
    intro hl hdot
    refine hhead ?_
    rw [List.head?_eq_getElem?, List.getElem?_eq_getElem hl]
    simpa using hdot
  · intro h
    refine ⟨(extension.toList.takeWhile (· = '.')).length, ?_, ?_⟩
    · rw [h, ← List.eq_replicate_length.2 fun c hc ↦ by simpa using List.mem_takeWhile_imp hc,
        List.takeWhile_append_dropWhile]
    · rw [h]
      intro hdot
      have := List.head?_dropWhile_not (· = '.') extension.toList
      simp [hdot] at this

/-- The files that an included path or pattern stands for: the file at the path, the files below it
that have one of the extensions, or the files that match. -/
inductive Source.Offers (tree : FileTree) (extensions : List String) : Source → Path → Prop
  | file {text : String} : tree.isFile (Path.mk text).normalize = true →
      Offers tree extensions (.path text) (Path.mk text).normalize
  | below {text extension rest : String} {f : Path} {content : ByteArray} :
      tree.isDirectory (Path.mk text).normalize = true →
      tree.Meets (Path.mk text).normalize f (.file content) → extension ∈ extensions →
      Undots extension rest → f.extension? = some rest → Offers tree extensions (.path text) f
  | matching {text : String} {glob : List Glob.Token} {f : Path} {content : ByteArray} :
      Glob.compile text = .ok glob →
      tree.Meets (walkStart (Path.mk text).normalize) f (.file content) →
      Glob.matchesText glob f = true → Offers tree extensions (.pattern text) f

/-- A search can be carried out. -/
structure Findable (s : Search) (tree : FileTree) : Prop where
  sources : ∀ source ∈ s.sources, source.Available tree
  excludedPaths : ∀ e ∈ s.excludedPaths, tree.exists? (Path.mk e).normalize = true
  excludedPatterns : ∀ pattern ∈ s.excludedPatterns, ∃ glob, Glob.compile pattern = .ok glob

/-- A file is offered in a spelling that does not come after another one. -/
def Picks (s : Search) (tree : FileTree) (f : Path) : Prop :=
  ∃ before source after, s.sources = before ++ source :: after ∧
    source.Offers tree s.extensions f ∧
    ∀ earlier ∈ before, ∀ g, earlier.Offers tree s.extensions g → g.same f = false

/-- A file lies at or below an excluded path, or an excluded pattern matches one of its forms with
respect to the working directory. -/
def Excludes (s : Search) (tree : FileTree) (f : Path) : Prop :=
  (∃ e ∈ s.excludedPaths, (Path.mk e).normalize.components <+: f.components) ∨
  ∃ pattern ∈ s.excludedPatterns, ∃ glob, Glob.compile pattern = .ok glob ∧
    ∃ form, Path.IsForm tree.workingDirectory f form ∧ Glob.matchesText glob form = true

/-- No file is offered in two spellings. -/
def SpelledOnce (s : Search) (tree : FileTree) : Prop :=
  ∀ source ∈ s.sources, ∀ source' ∈ s.sources, ∀ f g, source.Offers tree s.extensions f →
    source'.Offers tree s.extensions g → f.same g = true → f = g

theorem compile_singleton {text : String} {globs : Glob.Any} :
    compile [text] = .ok globs ↔ ∃ glob, Glob.compile text = .ok glob ∧ globs = ⟨[glob]⟩ := by
  simp only [compile, Result.mapError_ok_iff, Glob.Any.compile_eq_ok, List.mapM_cons, List.mapM_nil,
    Result.bind_eq_ok]
  constructor
  · rintro ⟨glob, hglob, _, ⟨⟩, h⟩
    have hglobs : [glob] = globs.globs := Except.ok.inj h
    exact ⟨glob, hglob, by rw [hglobs]⟩
  · rintro ⟨glob, hglob, rfl⟩
    exact ⟨glob, hglob, [], rfl, rfl⟩

theorem matchesText_singleton (glob : List Glob.Token) (p : Path) :
    (Glob.Any.mk [glob]).matchesText p = Glob.matchesText glob p := by
  rw [Glob.Any.matchesText, List.any_cons, List.any_nil, Bool.or_false]

theorem isFile_eq_true {node : Node} (h : FileTree.Node.isFile node = true) :
    ∃ content, node = .file content := by
  cases node with
  | file content => exact ⟨content, rfl⟩
  | _ => cases h

section Offered

variable (ht : tree.Proper)
include ht

theorem meets_unique {start : Path} {node node' : Node} (hf : tree.Meets start f node)
    (hg : tree.Meets start g node') (h : f.same g = true) : f = g := by
  obtain ⟨place, names, hl, hn, rfl⟩ := hf
  obtain ⟨place', names', hl', hn', rfl⟩ := hg
  cases hl.symm.trans hl'
  have hnames := below_injective (FileTree.text_ne_of_locate hl) (FileTree.names_of_node? ht hn)
    (FileTree.names_of_node? ht hn') (by simpa [Path.same] using h)
  rw [hnames]

theorem mem_filesBelow {directory : Path} :
    f ∈ filesBelow tree (extensions.map dropDots) directory ↔
      ∃ extension content, tree.Meets directory f (.file content) ∧ extension ∈ extensions ∧
        f.extension? = some (dropDots extension) := by
  have hext (p : Path) : p.normalize.extension? = p.extension? := by
    rw [extension?, fileName?_normalize, extension?]
  have hany (p : Path) : p.extension?.any (extensions.map dropDots).contains = true ↔
      ∃ extension ∈ extensions, p.extension? = some (dropDots extension) := by
    cases p.extension? <;> simp [eq_comm]
  simp only [filesBelow, List.mem_map, List.mem_filter, Bool.and_eq_true, FileTree.mem_walk ht,
    hany]
  constructor
  · rintro ⟨_, ⟨⟨place, names, node, hl, hn, rfl⟩, hfile, extension, hmem, he⟩, rfl⟩
    obtain ⟨content, rfl⟩ := isFile_eq_true hfile
    exact ⟨extension, content, ⟨place, names, hl, hn, rfl⟩, hmem, by rw [hext, he]⟩
  · rintro ⟨extension, content, ⟨place, names, hl, hn, rfl⟩, hmem, he⟩
    rw [hext] at he
    exact ⟨⟨directory.below names, true⟩, ⟨⟨place, names, .file content, hl, hn, rfl⟩, rfl,
      extension, hmem, he⟩, rfl⟩

theorem mem_matchingEntries {globs : Glob.Any} {start : Path} {entry : FileTree.Entry} :
    entry ∈ matchingEntries tree globs start ↔ ∃ node, tree.Meets start entry.path node ∧
      entry.isFile = FileTree.Node.isFile node ∧ globs.matchesText entry.path = true := by
  simp only [matchingEntries, List.mem_filter, List.mem_map, FileTree.mem_walk ht]
  constructor
  · rintro ⟨⟨_, ⟨place, names, node, hl, hn, rfl⟩, rfl⟩, hmatch⟩
    exact ⟨node, ⟨place, names, hl, hn, rfl⟩, rfl, hmatch⟩
  · rintro ⟨node, ⟨place, names, hl, hn, hpath⟩, hfile, hmatch⟩
    refine ⟨⟨_, ⟨place, names, node, hl, hn, rfl⟩, ?_⟩, hmatch⟩
    rw [← hpath, ← hfile]

end Offered

namespace Source

variable {source : Source}

def candidates (tree : FileTree) (extensions : List String) : Source → Except Error (List Path)
  | .path text => filesAt tree (extensions.map dropDots) (Path.mk text).normalize
  | .pattern text => filesMatching tree text

theorem not_isFile_of_isDirectory {p : Path} (h : tree.isDirectory p = true) :
    tree.isFile p = false := by
  unfold FileTree.isDirectory at h
  unfold FileTree.isFile
  split at h
  · next hl => rw [hl]
  · cases h

theorem Offers.meets (h : source.Offers tree extensions f) :
    ∃ start content, tree.Meets start f (.file content) := by
  cases h with
  | @file text hfile =>
    unfold FileTree.isFile at hfile
    split at hfile
    · next content hl =>
      obtain ⟨place, hplace, hl⟩ := Result.bind_eq_ok.1 hl
      refine ⟨(Path.mk text).normalize, content, place, [], hplace, ?_,
        (normalize_normalize _).symm⟩
      rw [List.append_nil]
      split at hl
      · next hn => rw [hn, Except.ok.inj hl]
      · cases hl
    · cases hfile
  | below _ hmeets => exact ⟨_, _, hmeets⟩
  | matching _ hmeets => exact ⟨_, _, hmeets⟩

theorem Offers.normalize_eq (h : source.Offers tree extensions f) : f.normalize = f := by
  obtain ⟨_, _, _, _, _, _, rfl⟩ := h.meets
  exact normalize_normalize _

theorem Offers.unique (ht : tree.Proper) (hf : source.Offers tree extensions f)
    (hg : source.Offers tree extensions g) (h : f.same g = true) : f = g := by
  cases hf with
  | file hfile =>
    cases hg with
    | file => rfl
    | below hdir =>
      rw [not_isFile_of_isDirectory hdir] at hfile
      cases hfile
  | below hdir hmeets =>
    cases hg with
    | file hfile =>
      rw [not_isFile_of_isDirectory hdir] at hfile
      cases hfile
    | below _ hmeets' => exact meets_unique ht hmeets hmeets' h
  | matching _ hmeets =>
    cases hg with
    | matching _ hmeets' => exact meets_unique ht hmeets hmeets' h

theorem Offers.of_extensions {extensions' : List String} (h : source.Offers tree extensions f)
    (he : extensions ⊆ extensions') : source.Offers tree extensions' f := by
  cases h with
  | file hfile => exact .file hfile
  | below hdir hmeets hmem hrest hext => exact .below hdir hmeets (he hmem) hrest hext
  | matching hglob hmeets hmatch => exact .matching hglob hmeets hmatch

theorem mem_candidates_path (ht : tree.Proper) {text : String} {l : List Path}
    (h : (path text).candidates tree extensions = .ok l) :
    f ∈ l ↔ (path text).Offers tree extensions f := by
  rw [candidates, filesAt] at h
  split at h
  · next hfile =>
    rw [← Except.ok.inj h, List.mem_singleton]
    constructor
    · rintro rfl
      exact .file hfile
    · rintro (_ | hdir)
      · rfl
      · rw [not_isFile_of_isDirectory hdir] at hfile
        cases hfile
  · next hfile =>
    split at h
    · next hdir =>
      rw [← Except.ok.inj h, mem_filesBelow ht]
      constructor
      · rintro ⟨extension, content, hmeets, hmem, hext⟩
        exact .below hdir hmeets hmem (undots_iff.2 rfl) hext
      · rintro (hfile' | ⟨-, hmeets, hmem, hrest, hext⟩)
        · exact absurd hfile' hfile
        · rw [undots_iff.1 hrest] at hext
          exact ⟨_, _, hmeets, hmem, hext⟩
    · cases h

theorem candidates_pattern {text : String} {l : List Path} :
    (pattern text).candidates tree extensions = .ok l ↔ ∃ glob, Glob.compile text = .ok glob ∧
      matchingEntries tree ⟨[glob]⟩ (walkStart (Path.mk text).normalize) ≠ [] ∧
      l = ((matchingEntries tree ⟨[glob]⟩ (walkStart (Path.mk text).normalize)).filter
        (·.isFile)).map (·.path) := by
  rw [candidates, filesMatching, Result.bind_eq_ok]
  constructor
  · rintro ⟨globs, hglobs, h⟩
    obtain ⟨glob, hglob, rfl⟩ := compile_singleton.1 hglobs
    refine ⟨glob, hglob, ?_⟩
    generalize matchingEntries tree ⟨[glob]⟩ (walkStart (Path.mk text).normalize) = entries at h ⊢
    cases entries with
    | nil => cases h
    | cons entry rest => exact ⟨List.cons_ne_nil entry rest, (Except.ok.inj h).symm⟩
  · rintro ⟨glob, hglob, hne, hl⟩
    refine ⟨⟨[glob]⟩, compile_singleton.2 ⟨glob, hglob, rfl⟩, ?_⟩
    generalize matchingEntries tree ⟨[glob]⟩ (walkStart (Path.mk text).normalize) = entries
      at hne hl ⊢
    cases entries with
    | nil => exact absurd rfl hne
    | cons entry rest => exact congrArg Except.ok hl.symm

theorem mem_candidates_pattern (ht : tree.Proper) {text : String} {l : List Path}
    (h : (pattern text).candidates tree extensions = .ok l) :
    f ∈ l ↔ (pattern text).Offers tree extensions f := by
  obtain ⟨glob, hglob, -, hl⟩ := candidates_pattern.1 h
  simp only [hl, List.mem_map, List.mem_filter, mem_matchingEntries ht]
  constructor
  · rintro ⟨entry, ⟨⟨node, hmeets, hfile, hmatch⟩, hentry⟩, rfl⟩
    obtain ⟨content, rfl⟩ := isFile_eq_true (hfile.symm.trans hentry)
    rw [matchesText_singleton] at hmatch
    exact .matching hglob hmeets hmatch
  · intro hoffers
    cases hoffers with
    | @matching _ glob' _ _ hglob' hmeets hmatch =>
      obtain rfl : glob = glob' := Except.ok.inj (hglob.symm.trans hglob')
      rw [← matchesText_singleton] at hmatch
      exact ⟨⟨f, true⟩, ⟨⟨_, hmeets, rfl, hmatch⟩, rfl⟩, rfl⟩

theorem mem_candidates (ht : tree.Proper) {l : List Path}
    (h : source.candidates tree extensions = .ok l) : f ∈ l ↔ source.Offers tree extensions f := by
  cases source with
  | path text => exact mem_candidates_path ht h
  | pattern text => exact mem_candidates_pattern ht h

theorem exists_candidates_iff (ht : tree.Proper) :
    (∃ l, source.candidates tree extensions = .ok l) ↔ source.Available tree := by
  cases source with
  | path text =>
    rw [candidates, filesAt, Available]
    by_cases hfile : tree.isFile (Path.mk text).normalize = true
    · simp [hfile]
    · by_cases hdir : tree.isDirectory (Path.mk text).normalize = true
      · simp [hfile, hdir]
      · simp [hfile, hdir]
  | pattern text =>
    simp only [candidates_pattern, Available]
    constructor
    · rintro ⟨l, glob, hglob, hne, -⟩
      obtain ⟨entry, hentry⟩ := List.exists_mem_of_ne_nil _ hne
      obtain ⟨node, hmeets, -, hmatch⟩ := (mem_matchingEntries ht).1 hentry
      rw [matchesText_singleton] at hmatch
      exact ⟨glob, hglob, entry.path, node, hmeets, hmatch⟩
    · rintro ⟨glob, hglob, f, node, hmeets, hmatch⟩
      rw [← matchesText_singleton] at hmatch
      have hentry : ⟨f, FileTree.Node.isFile node⟩ ∈
          matchingEntries tree ⟨[glob]⟩ (walkStart (Path.mk text).normalize) :=
        (mem_matchingEntries ht).2 ⟨node, hmeets, rfl, hmatch⟩
      exact ⟨_, glob, hglob, List.ne_nil_of_mem hentry, rfl⟩

def offered (tree : FileTree) (extensions : List String) (source : Source) : List Path :=
  (source.candidates tree extensions).toOption.getD []

theorem offered_of_ok {l : List Path} (h : source.candidates tree extensions = .ok l) :
    source.offered tree extensions = l := by
  rw [offered, h]
  rfl

theorem mem_offered (ht : tree.Proper) (h : source.Available tree) :
    f ∈ source.offered tree extensions ↔ source.Offers tree extensions f := by
  obtain ⟨l, hl⟩ : ∃ l, source.candidates tree extensions = .ok l := (exists_candidates_iff ht).2 h
  rw [offered_of_ok hl, mem_candidates ht hl]

theorem find?_offered_eq_some (ht : tree.Proper) (h : source.Available tree) :
    (source.offered tree extensions).find? (·.same f) = some f ↔
      source.Offers tree extensions f := by
  rw [← mem_offered ht h]
  refine ⟨List.mem_of_find?_eq_some, fun hf ↦ ?_⟩
  cases hfind : (source.offered tree extensions).find? (·.same f) with
  | none => exact absurd (same_self f) (List.find?_eq_none.1 hfind f hf)
  | some g =>
    -- A single walk spells each file in one way.
    have hg := (mem_offered ht h).1 (List.mem_of_find?_eq_some hfind)
    have hsame : g.same f = true := by simpa using List.find?_some hfind
    rw [hg.unique ht ((mem_offered ht h).1 hf) hsame]

theorem find?_offered_eq_none (ht : tree.Proper) (h : source.Available tree) :
    (source.offered tree extensions).find? (·.same f) = none ↔
      ∀ g, source.Offers tree extensions g → g.same f = false := by
  simp only [List.find?_eq_none, mem_offered ht h, Bool.not_eq_true]

end Source

section Find

theorem find_eq_ok :
    s.find tree = .ok files ↔ ∃ lists paths globs,
      s.sources.mapM (Source.candidates tree s.extensions) = .ok lists ∧
      s.excludedPaths.mapM (checkExcluded tree) = .ok paths ∧
      compile s.excludedPatterns = .ok globs ∧
      files = (sortDistinct lists.flatten).filter fun file ↦ !isExcluded tree paths globs file := by
  have hsources (lists : List (List Path)) :
      s.sources.mapM (Source.candidates tree s.extensions) = .ok lists ↔ ∃ atPaths,
        s.includedPaths.mapM (fun text ↦
          filesAt tree (s.extensions.map dropDots) (Path.mk text).normalize) = .ok atPaths ∧
        ∃ matching, s.includedPatterns.mapM (filesMatching tree) = .ok matching ∧
          (.ok (atPaths ++ matching) : Except Error _) = .ok lists := by
    rw [sources, List.mapM_append, List.mapM_map, List.mapM_map]
    simp only [Result.bind_eq_ok]
    rfl
  simp only [find, Result.bind_eq_ok, hsources]
  constructor
  · rintro ⟨atPaths, hpaths, matching, hmatching, paths, hexcluded, globs, hglobs, h⟩
    refine ⟨atPaths ++ matching, paths, globs, ⟨atPaths, hpaths, matching, hmatching, rfl⟩,
      hexcluded, hglobs, ?_⟩
    rw [List.flatten_append]
    exact (Except.ok.inj h).symm
  · rintro ⟨lists, paths, globs, ⟨atPaths, hpaths, matching, hmatching, hlists⟩, hexcluded, hglobs,
      hfiles⟩
    refine ⟨atPaths, hpaths, matching, hmatching, paths, hexcluded, globs, hglobs, ?_⟩
    rw [hfiles, ← Except.ok.inj hlists, List.flatten_append]

theorem checkExcluded_eq_ok {text : String} {p : Path} :
    checkExcluded tree text = .ok p ↔
      tree.exists? (Path.mk text).normalize = true ∧ p = (Path.mk text).normalize := by
  unfold checkExcluded
  dsimp only
  split
  · next h => simp [h, eq_comm]
  · next h => simp [h]

/-- Included paths and patterns have to be there, and so have excluded paths; and patterns have to
be readable. -/
theorem exists_find_iff (ht : tree.Proper) :
    (∃ files, s.find tree = .ok files) ↔ s.Findable tree := by
  have hlists := Result.exists_mapM_iff (f := Source.candidates tree s.extensions) (l := s.sources)
  have hpaths := Result.exists_mapM_iff (f := checkExcluded tree) (l := s.excludedPaths)
  have hglobs := Result.exists_mapM_iff (f := Glob.compile) (l := s.excludedPatterns)
  simp only [Source.exists_candidates_iff ht] at hlists
  simp only [checkExcluded_eq_ok, exists_eq_right] at hpaths
  simp only [find_eq_ok, compile, Result.mapError_ok_iff, Glob.Any.compile_eq_ok]
  constructor
  · rintro ⟨files, lists, paths, globs, hl, hp, hg, -⟩
    exact ⟨hlists.1 ⟨lists, hl⟩, hpaths.1 ⟨paths, hp⟩, hglobs.1 ⟨_, hg⟩⟩
  · rintro ⟨hs, hp, hg⟩
    obtain ⟨lists, hl⟩ := hlists.2 hs
    obtain ⟨paths, hp⟩ := hpaths.2 hp
    obtain ⟨globs, hg⟩ := hglobs.2 hg
    exact ⟨_, lists, paths, ⟨globs⟩, hl, hp, hg, rfl⟩

theorem mem_sortDistinct_iff (ht : tree.Proper) {lists : List (List Path)}
    (h : s.sources.mapM (Source.candidates tree s.extensions) = .ok lists) :
    f ∈ sortDistinct lists.flatten ↔ s.Picks tree f := by
  have hlists : s.sources.map (Source.offered tree s.extensions) = lists.map id :=
    map_eq_map (Result.forall₂_of_mapM h) fun _ _ ↦ Source.offered_of_ok
  have hav : ∀ source ∈ s.sources, source.Available tree := fun source hmem ↦
    (Source.exists_candidates_iff ht).1 (Result.exists_mapM_iff.1 ⟨lists, h⟩ source hmem)
  rw [List.map_id] at hlists
  rw [mem_sortDistinct, ← hlists, List.find?_flatten, List.findSome?_map,
    List.findSome?_eq_some_iff, Picks]
  refine exists_congr fun before ↦ exists_congr fun source ↦ exists_congr fun after ↦
    and_congr_right fun hs ↦ ?_
  rw [hs] at hav
  refine and_congr (Source.find?_offered_eq_some ht (hav source (by simp))) ?_
  exact forall₂_congr fun earlier hmem ↦
    Source.find?_offered_eq_none ht (hav earlier (List.mem_append_left _ hmem))

theorem isExcluded_iff {paths : List Path} {globs : Glob.Any}
    (hp : s.excludedPaths.mapM (checkExcluded tree) = .ok paths)
    (hg : compile s.excludedPatterns = .ok globs) (hf : f.normalize = f) :
    isExcluded tree paths globs f = true ↔ s.Excludes tree f := by
  have hpaths (p : Path) : p ∈ paths ↔ ∃ e ∈ s.excludedPaths, p = (Path.mk e).normalize := by
    rw [Result.mem_of_mapM hp]
    refine exists_congr fun e ↦ and_congr_right fun he ↦ ?_
    obtain ⟨q, hq⟩ := Result.exists_mapM_iff.1 ⟨paths, hp⟩ e he
    rw [checkExcluded_eq_ok, and_iff_right (checkExcluded_eq_ok.1 hq).1]
  have hmatch (p : Path) : globs.matchesText p = true ↔ ∃ pattern ∈ s.excludedPatterns,
      ∃ glob, Glob.compile pattern = .ok glob ∧ Glob.matchesText glob p = true := by
    rw [compile, Result.mapError_ok_iff, Glob.Any.compile_eq_ok] at hg
    rw [Glob.Any.matchesText, List.any_eq_true]
    simp only [Result.mem_of_mapM hg]
    grind
  rw [isExcluded, Bool.or_eq_true, Excludes]
  refine or_congr ?_ ?_
  · simp only [List.any_eq_true, hpaths, startsWith_iff]
    grind
  · rw [Glob.Any.matchesFile, Glob.matchesEither, hf, Bool.or_eq_true, hmatch, Option.any_eq_true]
    simp only [hmatch]
    constructor
    · rintro (⟨pattern, hmem, glob, hglob, hm⟩ | ⟨other, ho, pattern, hmem, glob, hglob, hm⟩)
      · exact ⟨pattern, hmem, glob, hglob, f, .own, hm⟩
      · exact ⟨pattern, hmem, glob, hglob, other, isForm_iff.2 (.inr ho), hm⟩
    · rintro ⟨pattern, hmem, glob, hglob, form, hform, hm⟩
      rcases isForm_iff.1 hform with rfl | ho
      · exact .inl ⟨pattern, hmem, glob, hglob, hm⟩
      · exact .inr ⟨form, ho, pattern, hmem, glob, hglob, hm⟩

theorem isExcluded_without_globs (paths : List Path) (f : Path) :
    isExcluded tree paths ⟨[]⟩ f = paths.any f.startsWith := by
  rw [isExcluded, Glob.Any.matchesFile_nil, Bool.or_false]

theorem Picks.normalize_eq (h : s.Picks tree f) : f.normalize = f := by
  obtain ⟨_, _, _, -, hoffers, -⟩ := h
  exact hoffers.normalize_eq

theorem mem_find (ht : tree.Proper) (h : s.find tree = .ok files) :
    f ∈ files ↔ s.Picks tree f ∧ ¬s.Excludes tree f := by
  obtain ⟨lists, paths, globs, hlists, hpaths, hglobs, rfl⟩ := find_eq_ok.1 h
  rw [List.mem_filter, mem_sortDistinct_iff ht hlists]
  refine and_congr_right fun hpicks ↦ ?_
  rw [← isExcluded_iff hpaths hglobs hpicks.normalize_eq, Bool.not_eq_true', Bool.not_eq_true]

end Find

section Rearranged

open Classical in
noncomputable def Source.covers (tree : FileTree) (extensions : List String) (f : Path)
    (source : Source) : Bool :=
  ∃ g, source.Offers tree extensions g ∧ g.same f = true

theorem Source.covers_eq_true {source : Source} : source.covers tree extensions f = true ↔
    ∃ g, source.Offers tree extensions g ∧ g.same f = true := by
  simp [covers]

theorem Source.covers_eq_false {source : Source} : source.covers tree extensions f = false ↔
    ∀ g, source.Offers tree extensions g → g.same f = false := by
  simp [covers]

theorem picks_iff : s.Picks tree f ↔ ∃ source,
    s.sources.find? (Source.covers tree s.extensions f) = some source ∧
      source.Offers tree s.extensions f := by
  simp only [List.find?_eq_some_iff_append, Picks, Bool.not_eq_true', Source.covers_eq_false]
  constructor
  · rintro ⟨before, source, after, hs, hoffers, hbefore⟩
    have hcovers := Source.covers_eq_true.2 ⟨f, hoffers, same_self f⟩
    exact ⟨source, ⟨hcovers, before, after, hs, hbefore⟩, hoffers⟩
  · rintro ⟨source, ⟨-, before, after, hs, hbefore⟩, hoffers⟩
    exact ⟨before, source, after, hs, hoffers, hbefore⟩

theorem find?_eraseDups {α : Type} [DecidableEq α] (p : α → Bool) (l : List α) :
    l.eraseDups.find? p = l.find? p := by
  cases l with
  | nil => rfl
  | cons a rest =>
    rw [List.eraseDups_cons, List.find?_cons, List.find?_cons]
    cases ha : p a with
    | true => rfl
    | false =>
      have hdrop : (fun b ↦ decide ((!b == a) = true ∧ p b = true)) = p := by
        funext b
        by_cases hb : b = a
        · simp [hb, ha]
        · simp [hb]
      rw [find?_eraseDups p (rest.filter fun b ↦ !b == a), List.find?_filter, hdrop]
termination_by l.length
decreasing_by exact Nat.lt_succ_of_le (List.length_filter_le _ _)

theorem SpelledOnce.picks_iff (h : s.SpelledOnce tree) :
    s.Picks tree f ↔ ∃ source ∈ s.sources, source.Offers tree s.extensions f := by
  rw [Search.picks_iff]
  constructor
  · rintro ⟨source, hfind, hoffers⟩
    exact ⟨source, List.mem_of_find?_eq_some hfind, hoffers⟩
  · rintro ⟨source, hmem, hoffers⟩
    have hcovers := Source.covers_eq_true.2 ⟨f, hoffers, same_self f⟩
    cases hfind : s.sources.find? (Source.covers tree s.extensions f) with
    | none => exact absurd hcovers (List.find?_eq_none.1 hfind source hmem)
    | some first =>
      obtain ⟨g, hg, hsame⟩ := Source.covers_eq_true.1 (List.find?_some hfind)
      rw [h first (List.mem_of_find?_eq_some hfind) source hmem g f hg hoffers hsame] at hg
      exact ⟨first, rfl, hg⟩

theorem Source.offers_congr {extensions' : List String} {source : Source}
    (h : ∀ e, e ∈ extensions' ↔ e ∈ extensions) :
    source.Offers tree extensions' f ↔ source.Offers tree extensions f :=
  ⟨fun hoffers ↦ hoffers.of_extensions fun e ↦ (h e).1,
    fun hoffers ↦ hoffers.of_extensions fun e ↦ (h e).2⟩

/-- Another search has the same entries. Their order does not matter, and neither does how often
each one is there; but included entries come in the same order unless each file is offered in one
spelling. -/
structure Rearranges (s' s : Search) (tree : FileTree) : Prop where
  sources : s'.sources.eraseDups = s.sources.eraseDups ∨
    s.SpelledOnce tree ∧ ∀ source, source ∈ s'.sources ↔ source ∈ s.sources
  excludedPaths : ∀ e, e ∈ s'.excludedPaths ↔ e ∈ s.excludedPaths
  excludedPatterns : ∀ pattern, pattern ∈ s'.excludedPatterns ↔ pattern ∈ s.excludedPatterns
  extensions : ∀ e, e ∈ s'.extensions ↔ e ∈ s.extensions

namespace Rearranges

theorem mem_sources (h : s'.Rearranges s tree) (source : Source) :
    source ∈ s'.sources ↔ source ∈ s.sources := by
  rcases h.sources with hs | ⟨-, hs⟩
  · rw [← List.mem_eraseDups, hs, List.mem_eraseDups]
  · exact hs source

theorem findable (h : s'.Rearranges s tree) (hs : s.Findable tree) : s'.Findable tree where
  sources source hmem := hs.sources source ((h.mem_sources source).1 hmem)
  excludedPaths e hmem := hs.excludedPaths e ((h.excludedPaths e).1 hmem)
  excludedPatterns pattern hmem := hs.excludedPatterns pattern ((h.excludedPatterns pattern).1 hmem)

theorem excludes_iff (h : s'.Rearranges s tree) : s'.Excludes tree f ↔ s.Excludes tree f := by
  simp only [Excludes, h.excludedPaths, h.excludedPatterns]

theorem spelledOnce (h : s'.Rearranges s tree) (hs : s.SpelledOnce tree) : s'.SpelledOnce tree := by
  simpa only [SpelledOnce, h.mem_sources, Source.offers_congr h.extensions] using hs

theorem picks_iff (h : s'.Rearranges s tree) : s'.Picks tree f ↔ s.Picks tree f := by
  have hoffers (source : Source) (g : Path) :
      source.Offers tree s'.extensions g ↔ source.Offers tree s.extensions g :=
    Source.offers_congr h.extensions
  rcases h.sources with hs | ⟨hs, hmem⟩
  · have hcovers : Source.covers tree s'.extensions f = Source.covers tree s.extensions f := by
      funext source
      rw [Bool.eq_iff_iff, Source.covers_eq_true, Source.covers_eq_true]
      simp only [hoffers]
    rw [Search.picks_iff, Search.picks_iff, ← find?_eraseDups _ s'.sources, hs, find?_eraseDups,
      hcovers]
    simp only [hoffers]
  · rw [hs.picks_iff, (h.spelledOnce hs).picks_iff]
    simp only [hmem, hoffers]

theorem find_eq (ht : tree.Proper) (h : s'.Rearranges s tree) (hfiles : s.find tree = .ok files) :
    s'.find tree = .ok files := by
  obtain ⟨files', hfiles'⟩ :=
    (exists_find_iff ht).2 (h.findable ((exists_find_iff ht).1 ⟨files, hfiles⟩))
  have hmem (f : Path) : f ∈ files' ↔ f ∈ files := by
    rw [mem_find ht hfiles', mem_find ht hfiles, h.picks_iff, h.excludes_iff]
  rw [hfiles', (ascending_find hfiles').eq_of_mem_iff (ascending_find hfiles) hmem]

end Rearranges

end Rearranged

section Spellings

def oneFile : FileTree where
  nodes := [(["a"], .directory), (["a", "b"], .file ByteArray.empty)]
  workingPlace := []

theorem oneFile_proper : oneFile.Proper where
  toWithoutLinks := .of_nodes (by simp [oneFile]) (by decide) (by simp [oneFile])
  distinct := by simp [oneFile]
  names := by
    have hnames : IsName "a" ∧ IsName "b" := ⟨⟨rfl, by simp, by simp⟩, rfl, by simp, by simp⟩
    simp [oneFile, hnames]

def sparing (includedPaths : List String) : Search where
  includedPaths := includedPaths
  excludedPaths := []
  includedPatterns := []
  excludedPatterns := ["a/b"]
  extensions := []

theorem locate_oneFile :
    oneFile.locate .follow ⟨"a"⟩ = .ok ["a"] ∧ oneFile.locate .follow ⟨"/a"⟩ = .ok ["a"] ∧
    oneFile.locate .follow ⟨"."⟩ = .ok [] ∧ oneFile.locate .follow ⟨"a/b"⟩ = .ok ["a", "b"] ∧
    oneFile.locate .follow ⟨"a//b"⟩ = .ok ["a", "b"] ∧
    oneFile.locate .follow ⟨"/a/b"⟩ = .ok ["a", "b"] := by
  simp only [FileTree.locate_eq_ok oneFile_proper.toWithoutLinks]
  decide

theorem candidates_oneFile :
    (Source.path "a/b").candidates oneFile [] = .ok [⟨"a/b"⟩] ∧
    (Source.path "a//b").candidates oneFile [] = .ok [⟨"a//b"⟩] := by
  have hn : (Path.mk "a/b").normalize = ⟨"a/b"⟩ := rfl
  have hn' : (Path.mk "a//b").normalize = ⟨"a//b"⟩ := rfl
  obtain ⟨-, -, -, hl, hl', -⟩ := locate_oneFile
  have hnode : oneFile.node? ["a", "b"] = some (.file ByteArray.empty) := rfl
  simp [Source.candidates, hn, hn', filesAt, FileTree.isFile, FileTree.lookup, hl, hl', hnode,
    bind, Except.bind]

theorem isExcluded_oneFile :
    isExcluded oneFile [] ⟨[[.literal 'a', .literal '/', .literal 'b']]⟩ ⟨"a/b"⟩ = true ∧
    isExcluded oneFile [] ⟨[[.literal 'a', .literal '/', .literal 'b']]⟩ ⟨"a//b"⟩ = false := by
  have hn : (Path.mk "a/b").normalize = ⟨"a/b"⟩ := rfl
  have hn' : (Path.mk "a//b").normalize = ⟨"a//b"⟩ := rfl
  have hw : oneFile.workingDirectory = ⟨"/"⟩ := by decide +kernel
  have ha : (Path.mk "a//b").isAbsolute = false := rfl
  have hslash : "/".endsWith "/" = true := endsWith_slash_iff.2 List.suffix_rfl
  have hj : (Path.mk "/").join ⟨"a//b"⟩ = ⟨"/a//b"⟩ := by simp [join, ha, hslash]
  have hm : Glob.matchesText [.literal 'a', .literal '/', .literal 'b'] ⟨"a/b"⟩ = true := by
    decide +kernel
  have hm' : Glob.matchesText [.literal 'a', .literal '/', .literal 'b'] ⟨"a//b"⟩ = false := by
    decide +kernel
  have hm'' : Glob.matchesText [.literal 'a', .literal '/', .literal 'b'] ⟨"/a//b"⟩ = false := by
    decide +kernel
  simp [isExcluded, Glob.Any.matchesFile, Glob.matchesEither, Glob.Any.matchesText, hn, hn',
    otherSpelling?, hw, ha, hj, hm, hm', hm'']

theorem compile_sparing : compile ["a/b"] = .ok ⟨[[.literal 'a', .literal '/', .literal 'b']]⟩ :=
  compile_singleton.2 ⟨_, rfl, rfl⟩

theorem find_sparing :
    (sparing ["a/b", "a//b"]).find oneFile = .ok [] ∧
    (sparing ["a//b", "a/b"]).find oneFile = .ok [⟨"a//b"⟩] := by
  obtain ⟨hc, hc'⟩ := candidates_oneFile
  obtain ⟨he, he'⟩ := isExcluded_oneFile
  refine ⟨find_eq_ok.2 ⟨[[⟨"a/b"⟩], [⟨"a//b"⟩]], [], _, ?_, rfl, compile_sparing, ?_⟩,
    find_eq_ok.2 ⟨[[⟨"a//b"⟩], [⟨"a/b"⟩]], [], _, ?_, rfl, compile_sparing, ?_⟩⟩
  · simp [sources, sparing, hc, hc', bind, Except.bind, pure, Except.pure]
  · have hsame : (Path.mk "a/b").same ⟨"a//b"⟩ = true := rfl
    have hs : sortDistinct [⟨"a/b"⟩, ⟨"a//b"⟩] = [⟨"a/b"⟩] := by
      rw [sortDistinct, List.mergeSort_of_pairwise (by decide)]
      simp [dropRepeated, hsame]
    simp [hs, he]
  · simp [sources, sparing, hc, hc', bind, Except.bind, pure, Except.pure]
  · have hsame : (Path.mk "a//b").same ⟨"a/b"⟩ = true := rfl
    have hs : sortDistinct [⟨"a//b"⟩, ⟨"a/b"⟩] = [⟨"a//b"⟩] := by
      rw [sortDistinct, List.mergeSort_of_pairwise (by decide)]
      simp [dropRepeated, hsame]
    simp [hs, he']

end Spellings

section Sampling

def fourFiles : FileTree where
  nodes := [(["d"], .directory), (["d", "a.t"], .file "y".toUTF8), (["d", "b.t"], .file ⟨#[255]⟩),
    (["d", "c.t"], .file "x".toUTF8), (["u"], .file ByteArray.empty)]
  workingPlace := []

theorem fourFiles_proper : fourFiles.Proper where
  toWithoutLinks := .of_nodes (by simp [fourFiles]) (by decide) (by simp [fourFiles])
  distinct := by simp [fourFiles]
  names := by
    have hnames : IsName "d" ∧ IsName "a.t" ∧ IsName "b.t" ∧ IsName "c.t" ∧ IsName "u" :=
      ⟨⟨rfl, by simp, by simp⟩, ⟨rfl, by simp, by simp⟩, ⟨rfl, by simp, by simp⟩,
        ⟨rfl, by simp, by simp⟩, rfl, by simp, by simp⟩
    simp [fourFiles, hnames]

theorem locate_fourFiles :
    fourFiles.locate .follow ⟨"d"⟩ = .ok ["d"] ∧ fourFiles.locate .follow ⟨"."⟩ = .ok [] ∧
    fourFiles.locate .follow ⟨"d/a.t"⟩ = .ok ["d", "a.t"] ∧
    fourFiles.locate .follow ⟨"d/b.t"⟩ = .ok ["d", "b.t"] ∧
    fourFiles.locate .follow ⟨"d/c.t"⟩ = .ok ["d", "c.t"] := by
  simp only [FileTree.locate_eq_ok fourFiles_proper.toWithoutLinks]
  decide

theorem walk_fourFiles :
    fourFiles.walk ⟨"d"⟩ =
      [⟨⟨"d"⟩, false⟩, ⟨⟨"d/a.t"⟩, true⟩, ⟨⟨"d/b.t"⟩, true⟩, ⟨⟨"d/c.t"⟩, true⟩] ∧
    fourFiles.walk ⟨"."⟩ =
      [⟨⟨"."⟩, false⟩, ⟨⟨"./d"⟩, false⟩, ⟨⟨"./d/a.t"⟩, true⟩, ⟨⟨"./d/b.t"⟩, true⟩,
        ⟨⟨"./d/c.t"⟩, true⟩, ⟨⟨"./u"⟩, true⟩] := by
  obtain ⟨hd, hdot, -⟩ := locate_fourFiles
  simp only [FileTree.walk, FileTree.locate_keepLink fourFiles_proper.toWithoutLinks, hd, hdot]
  decide +kernel

theorem candidates_fourFiles :
    (Source.path "./d").candidates fourFiles [".t"] =
      .ok [⟨"d/a.t"⟩, ⟨"d/b.t"⟩, ⟨"d/c.t"⟩] ∧
    (Source.pattern "?").candidates fourFiles [".t"] = .ok [⟨"u"⟩] := by
  obtain ⟨hd, -⟩ := locate_fourFiles
  obtain ⟨hwalk, hwalk'⟩ := walk_fourFiles
  have hn : (Path.mk "./d").normalize = ⟨"d"⟩ := rfl
  have hnode : fourFiles.node? ["d"] = some .directory := rfl
  constructor
  · simp [Source.candidates, hn, filesAt, FileTree.isFile, FileTree.isDirectory, FileTree.lookup,
      hd, hnode, bind, Except.bind, filesBelow, hwalk]
    decide
  · refine Source.candidates_pattern.2 ⟨[.any], rfl, ?_⟩
    have hstart : walkStart (Path.mk "?").normalize = ⟨"."⟩ := by decide
    have hentries : matchingEntries fourFiles ⟨[[.any]]⟩ ⟨"."⟩ =
        [⟨⟨"."⟩, false⟩, ⟨⟨"d"⟩, false⟩, ⟨⟨"u"⟩, true⟩] := by
      simp only [matchingEntries, hwalk', Glob.Any.matchesText, Glob.matchesText,
        Text.toList_toUTF8]
      decide
    rw [hstart, hentries]
    exact ⟨by simp, rfl⟩

/-- A search for the files below `d` with an extension and for the files with a name of one
character, except for one that is given from the root. -/
def sampling : Search where
  includedPaths := ["./d"]
  excludedPaths := []
  includedPatterns := ["?"]
  excludedPatterns := ["/d/c*"]
  extensions := [".t"]

theorem sampling_spelledOnce : sampling.SpelledOnce fourFiles := by
  obtain ⟨hc, hc'⟩ := candidates_fourFiles
  have hmem : ∀ source ∈ sampling.sources, ∀ f, source.Offers fourFiles [".t"] f →
      f ∈ [(⟨"d/a.t"⟩ : Path), ⟨"d/b.t"⟩, ⟨"d/c.t"⟩, ⟨"u"⟩] := by
    intro source hsource f hf
    have hcases : source = .path "./d" ∨ source = .pattern "?" := by
      simpa [sources, sampling] using hsource
    rcases hcases with rfl | rfl
    · have := (Source.mem_candidates fourFiles_proper hc).2 hf
      simp only [List.mem_cons, List.not_mem_nil, or_false] at this ⊢
      tauto
    · have := (Source.mem_candidates fourFiles_proper hc').2 hf
      simp only [List.mem_cons, List.not_mem_nil, or_false] at this ⊢
      tauto
  have hsame : ∀ f ∈ [(⟨"d/a.t"⟩ : Path), ⟨"d/b.t"⟩, ⟨"d/c.t"⟩, ⟨"u"⟩],
      ∀ g ∈ [(⟨"d/a.t"⟩ : Path), ⟨"d/b.t"⟩, ⟨"d/c.t"⟩, ⟨"u"⟩], f.same g = true → f = g := by
    decide
  exact fun source hsource source' hsource' f g hf hg ↦
    hsame f (hmem source hsource f hf) g (hmem source' hsource' g hg)

theorem find_sampling : sampling.find fourFiles = .ok [⟨"d/a.t"⟩, ⟨"d/b.t"⟩, ⟨"u"⟩] := by
  obtain ⟨hc, hc'⟩ := candidates_fourFiles
  have hw : fourFiles.workingDirectory = ⟨"/"⟩ := rfl
  have hexcluded : compile ["/d/c*"] =
      .ok ⟨[[.literal '/', .literal 'd', .literal '/', .literal 'c', .star]]⟩ :=
    compile_singleton.2 ⟨_, rfl, rfl⟩
  have hascending : Ascending [⟨"d/a.t"⟩, ⟨"d/b.t"⟩, ⟨"d/c.t"⟩, ⟨"u"⟩] := by
    simp only [Ascending, List.pairwise_cons]
    decide
  have hjoin : ∀ s ∈ ["d/a.t", "d/b.t", "d/c.t", "u"],
      (Path.mk "/").join ⟨s⟩ = ⟨"/" ++ s⟩ ∧ (Path.mk s).isAbsolute = false ∧
        (Path.mk s).normalize = ⟨s⟩ := by
    have hslash : "/".endsWith "/" = true := endsWith_slash_iff.2 List.suffix_rfl
    have hrelative : ∀ s ∈ ["d/a.t", "d/b.t", "d/c.t", "u"], (Path.mk s).isAbsolute = false ∧
        (Path.mk s).normalize = ⟨s⟩ := by decide
    exact fun s hs ↦ ⟨by simp [join, hrelative s hs, hslash], hrelative s hs⟩
  have hmatch : ∀ s ∈ ["d/a.t", "d/b.t", "d/c.t", "u"],
      isExcluded fourFiles [] ⟨[[.literal '/', .literal 'd', .literal '/', .literal 'c', .star]]⟩
        ⟨s⟩ = decide (s = "d/c.t") := by
    intro s hs
    obtain ⟨hj, ha, hn⟩ := hjoin s hs
    simp only [isExcluded, Glob.Any.matchesFile, Glob.matchesEither, hn, otherSpelling?, hw, ha, hj,
      Bool.false_eq_true, if_false, Option.any_some, Glob.Any.matchesText, Glob.matchesText,
      Text.toList_toUTF8, String.toList_append, List.any_nil, Bool.false_or]
    clear hj ha hn
    revert s
    decide
  simp only [List.forall_mem_cons] at hmatch
  refine find_eq_ok.2 ⟨[[⟨"d/a.t"⟩, ⟨"d/b.t"⟩, ⟨"d/c.t"⟩], [⟨"u"⟩]], [], _, ?_, rfl, hexcluded, ?_⟩
  · simp [sources, sampling, hc, hc', bind, Except.bind, pure, Except.pure]
  · simp [sortDistinct_eq hascending (List.Perm.refl _), hmatch]

end Sampling

/-- A search succeeds if all that it names is there and can be read. It finds, in order, the files
that it includes and does not leave out, each in the spelling in which it is offered first. -/
theorem find_exact (ht : tree.Proper) (s : Search) :
    ((∃ files, s.find tree = .ok files) ↔ s.Findable tree) ∧
    ∀ files, s.find tree = .ok files → Path.Ascending files ∧
      (∀ f, f ∈ files ↔ s.Picks tree f ∧ ¬s.Excludes tree f) ∧
      (s.SpelledOnce tree → ∀ f, f ∈ files ↔
        (∃ source ∈ s.sources, source.Offers tree s.extensions f) ∧ ¬s.Excludes tree f) ∧
      ∀ s' : Search, s'.Rearranges s tree → s'.find tree = .ok files := by
  refine ⟨exists_find_iff ht, fun files hfiles ↦ ⟨ascending_find hfiles, fun f ↦ mem_find ht hfiles,
    fun hs f ↦ ?_, fun s' h ↦ h.find_eq ht hfiles⟩⟩
  rw [mem_find ht hfiles, hs.picks_iff]

theorem find_exact_fourFiles :
    fourFiles.Proper ∧ sampling.Findable fourFiles ∧
    sampling.find fourFiles = .ok [⟨"d/a.t"⟩, ⟨"d/b.t"⟩, ⟨"u"⟩] ∧
    (∀ f, f ∈ [(⟨"d/a.t"⟩ : Path), ⟨"d/b.t"⟩, ⟨"u"⟩] ↔
      sampling.Picks fourFiles f ∧ ¬sampling.Excludes fourFiles f) ∧
    sampling.SpelledOnce fourFiles ∧
    (∀ f, f ∈ [(⟨"d/a.t"⟩ : Path), ⟨"d/b.t"⟩, ⟨"u"⟩] ↔
      (∃ source ∈ sampling.sources, source.Offers fourFiles [".t"] f) ∧
        ¬sampling.Excludes fourFiles f) ∧
    ({ sampling with includedPaths := ["./d", "./d"] } : Search).find fourFiles =
      .ok [⟨"d/a.t"⟩, ⟨"d/b.t"⟩, ⟨"u"⟩] ∧
    (∀ f, f ∈ [(⟨"a//b"⟩ : Path)] ↔ (sparing ["a//b", "a/b"]).Picks oneFile f ∧
      ¬(sparing ["a//b", "a/b"]).Excludes oneFile f) := by
  obtain ⟨hok, hfiles⟩ := find_exact fourFiles_proper sampling
  obtain ⟨-, hmem, hmem', hrearranged⟩ := hfiles _ find_sampling
  obtain ⟨-, hmem'', -⟩ := (find_exact oneFile_proper _).2 _ find_sparing.2
  exact ⟨fourFiles_proper, hok.1 ⟨_, find_sampling⟩, find_sampling, hmem, sampling_spelledOnce,
    hmem' sampling_spelledOnce,
    hrearranged _ ⟨.inl (by decide), fun _ ↦ .rfl, fun _ ↦ .rfl, fun _ ↦ .rfl⟩, hmem''⟩

/-- The order of what is included decides whether a file is found, as it decides its spelling; and a
file need not be found although it is offered in a spelling that nothing excludes. -/
theorem find_depends_on_order :
    (sparing ["a/b", "a//b"]).find oneFile = .ok [] ∧
    (sparing ["a//b", "a/b"]).find oneFile = .ok [⟨"a//b"⟩] ∧
    (∃ source ∈ (sparing ["a/b", "a//b"]).sources, source.Offers oneFile [] ⟨"a//b"⟩) ∧
    ¬(sparing ["a/b", "a//b"]).Excludes oneFile ⟨"a//b"⟩ := by
  obtain ⟨hfind, hfind'⟩ := find_sparing
  have hoffers := (Source.mem_candidates oneFile_proper candidates_oneFile.2).1
    (List.mem_singleton.2 rfl)
  have hpaths : (sparing ["a/b", "a//b"]).excludedPaths.mapM (checkExcluded oneFile) = .ok [] := rfl
  refine ⟨hfind, hfind', ⟨.path "a//b", by decide, hoffers⟩, ?_⟩
  rw [← isExcluded_iff hpaths compile_sparing hoffers.normalize_eq, isExcluded_oneFile.2]
  exact Bool.false_ne_true

end Search

end LintEngine
