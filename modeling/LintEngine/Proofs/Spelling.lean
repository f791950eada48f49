import LintEngine.Proofs.Result
import LintEngine.Proofs.Segments
import LintEngine.Proofs.Trails

namespace LintEngine

namespace FileTree

open LintEngine.Path LintEngine.Result

/-- No entry is a link, every entry lies in a directory, and the working directory is spelled with
names. -/
structure WithoutLinks (tree : FileTree) : Prop where
  no_links : ∀ place target, tree.node? place ≠ some (.link target)
  in_directories : ∀ place name node, tree.node? (place ++ [name]) = some node →
    tree.isDirectoryAt place = true
  working_names : ∀ name ∈ tree.workingPlace, IsName name

/-- One step of a look-up where there are no links. -/
def descend (tree : FileTree) (place : Place) (name : String) : Except FileError Place :=
  if !tree.isDirectoryAt place then .error .notDirectory
  else if skips name then .ok place
  else if name = ".." then .ok place.dropLast
  else if nameLimit < name.utf8ByteSize then .error .nameTooLong
  else if (tree.node? (place ++ [name])).isSome then .ok (place ++ [name])
  else .error .notFound

def startOf (tree : FileTree) (p : Path) : Place :=
  if p.isAbsolute then [] else tree.workingPlace

variable {tree : FileTree} {p : Path} {place : Place}

theorem WithoutLinks.of_nodes (hlinks : ∀ entry ∈ tree.nodes, ∀ target, entry.2 ≠ .link target)
    (hdirs : ∀ entry ∈ tree.nodes, tree.isDirectoryAt entry.1.dropLast = true)
    (hwork : ∀ name ∈ tree.workingPlace, IsName name) : tree.WithoutLinks where
  no_links place target hn := by
    cases place with
    | nil => simp [node?] at hn
    | cons name names => exact hlinks _ (mem_nodes (List.cons_ne_nil name names) hn) target rfl
  in_directories place name node hn := by
    have hdir := hdirs _ (mem_nodes (by simp) hn)
    rwa [List.dropLast_concat] at hdir
  working_names := hwork

theorem walkTo_eq_foldlM (ht : tree.WithoutLinks) (links : ℕ) (place : Place)
    (route : List String) :
    tree.walkTo .follow links place route = route.foldlM tree.descend place := by
  induction route generalizing place with
  | nil => rw [walkTo]; rfl
  | cons name rest ih =>
    rw [walkTo, List.foldlM_cons, descend]
    by_cases hd : (!tree.isDirectoryAt place) = true
    · rw [if_pos hd, if_pos hd]; rfl
    · rw [if_neg hd, if_neg hd]
      by_cases hs : skips name = true
      · have hs' : (decide (name = "") || decide (name = ".")) = true := hs
        rw [if_pos hs', if_pos hs, ih]; rfl
      · have hs' : ¬ (decide (name = "") || decide (name = ".")) = true := hs
        rw [if_neg hs', if_neg hs]
        by_cases hp : name = ".."
        · rw [if_pos hp, if_pos hp, ih]; rfl
        · rw [if_neg hp, if_neg hp]
          by_cases hl : nameLimit < name.utf8ByteSize
          · rw [if_pos hl, if_pos hl]; rfl
          · rw [if_neg hl, if_neg hl]
            cases hn : tree.node? (place ++ [name]) with
            | none => simp; rfl
            | some node =>
              cases node with
              | link target => exact absurd hn (ht.no_links _ target)
              | _ => simp only [Option.isSome_some, if_true]; rw [ih]; rfl

theorem locate_eq_ok (ht : tree.WithoutLinks) : tree.locate .follow p = .ok place ↔
    p.text ≠ "" ∧ '\x00' ∉ p.text.toList ∧ p.text.utf8ByteSize ≤ pathLimit ∧
      (segments p).foldlM tree.descend (tree.startOf p) = .ok place := by
  unfold locate
  by_cases htext : p.text = ""
  · simp [htext]
  by_cases hnul : '\x00' ∈ p.text.toList
  · simp [htext, hnul, String.contains_char_eq]
  by_cases hlimit : pathLimit < p.text.utf8ByteSize
  · simp [htext, hnul, hlimit, String.contains_char_eq]
  · simp [htext, hnul, hlimit, Nat.le_of_not_lt hlimit, String.contains_char_eq,
      walkTo_eq_foldlM ht, startOf]

theorem foldlM_of_locate (ht : tree.WithoutLinks) (h : tree.locate .follow p = .ok place) :
    (segments p).foldlM tree.descend (tree.startOf p) = .ok place :=
  ((locate_eq_ok ht).1 h).2.2.2

theorem descend_ok {name : String} {next : Place} (h : tree.descend place name = .ok next) :
    tree.isDirectoryAt place = true ∧
      (skips name = true ∧ next = place ∨ name = ".." ∧ next = place.dropLast ∨
        skips name = false ∧ name ≠ ".." ∧ next = place ++ [name]) := by
  unfold descend at h
  split at h
  · simp at h
  · next hd =>
    refine ⟨by simpa using hd, ?_⟩
    split at h
    · next hs => exact .inl ⟨hs, by simpa using h.symm⟩
    · next hs =>
      split at h
      · next hp => exact .inr (.inl ⟨hp, by simpa using h.symm⟩)
      · next hp =>
        split at h
        · simp at h
        · split at h
          · exact .inr (.inr ⟨by simpa using hs, hp, by simpa using h.symm⟩)
          · simp at h

theorem isDirectoryAt_dropLast (ht : tree.WithoutLinks) (h : tree.isDirectoryAt place = true) :
    tree.isDirectoryAt place.dropLast = true := by
  cases place using List.reverseRecOn with
  | nil => exact h
  | append_singleton place name =>
    rw [List.dropLast_concat]
    cases hn : tree.node? (place ++ [name]) with
    | none => simp [isDirectoryAt, hn] at h
    | some node => exact ht.in_directories _ _ node hn

theorem locate_file (ht : tree.WithoutLinks) (h : tree.locate .follow p = .ok place)
    (hf : tree.isDirectoryAt place = false) :
    ∃ front name mid, segments p = front ++ [name] ∧ IsName name ∧
      front.foldlM tree.descend (tree.startOf p) = .ok mid ∧ place = mid ++ [name] := by
  have hfold := foldlM_of_locate ht h
  cases hs : segments p using List.reverseRecOn with
  | nil => exact absurd hs (segments_ne_nil p)
  | append_singleton front name =>
    rw [hs, List.foldlM_append, bind_eq_ok] at hfold
    obtain ⟨mid, hmid, hlast⟩ := hfold
    simp only [List.foldlM_cons, List.foldlM_nil, bind_pure] at hlast
    obtain ⟨hd, hcases⟩ := descend_ok hlast
    rcases hcases with ⟨-, rfl⟩ | ⟨-, rfl⟩ | ⟨hskip, hparent, rfl⟩
    · rw [hd] at hf
      cases hf
    · rw [isDirectoryAt_dropLast ht hd] at hf
      cases hf
    · have hslash : '/' ∉ name.toList := not_mem_of_mem_segments (p := p) (by simp [hs])
      exact ⟨front, name, mid, rfl, ⟨hskip, hparent, hslash⟩, hmid, rfl⟩

theorem foldlM_skipped {skipped : List String} (hs : ∀ s ∈ skipped, skips s = true)
    {next : Place} (h : skipped.foldlM tree.descend place = .ok next) : next = place := by
  induction skipped generalizing place with
  | nil =>
    cases h
    rfl
  | cons s skipped ih =>
    rw [List.foldlM_cons, bind_eq_ok] at h
    obtain ⟨mid, hmid, hrest⟩ := h
    have hnext := ih (fun t ht ↦ hs t (List.mem_cons_of_mem _ ht)) hrest
    have hskip := hs s List.mem_cons_self
    rcases (descend_ok hmid).2 with ⟨-, rfl⟩ | ⟨rfl, -⟩ | ⟨hno, -, -⟩
    · exact hnext
    · simp [skips] at hskip
    · rw [hskip] at hno
      cases hno

theorem locate_beside (ht : tree.WithoutLinks) (h : tree.locate .follow p = .ok place)
    (hf : tree.isDirectoryAt place = false) {e : Path} (he : e.isAbsolute = false) {next : Place}
    (hn : tree.locate .follow ((p.parent?.getD ⟨""⟩).join e) = .ok next) :
    (segments e).foldlM tree.descend place.dropLast = .ok next := by
  obtain ⟨front, name, mid, hs, hname, hmid, rfl⟩ := locate_file ht h hf
  obtain ⟨kept, skipped, rfl, hskip, hkept, hjoin⟩ := segments_directory hs hname
  have hseg := hjoin e he
  have hstart : tree.startOf ((p.parent?.getD ⟨""⟩).join e) = tree.startOf p := by
    cases kept with
    | nil =>
      rw [hkept rfl] at hs
      have hp : p.isAbsolute = false := by
        rw [← Bool.not_eq_true, isAbsolute_iff, hs]
        simp
      have hj : ((p.parent?.getD ⟨""⟩).join e).isAbsolute = false := by
        rw [← Bool.not_eq_true, isAbsolute_iff, hseg, List.nil_append, ← isAbsolute_iff, he]
        simp
      simp only [startOf, hp, hj]
    | cons first kept =>
      have hs' : segments p = first :: (kept ++ skipped ++ [name]) := hs
      have hp := isAbsolute_iff_of_cons hs' (by simp)
      have hj := isAbsolute_iff_of_cons hseg (by simp [segments_ne_nil])
      simp only [startOf, hp, hj]
  have hfold := foldlM_of_locate ht hn
  rw [hseg, hstart, List.foldlM_append, bind_eq_ok] at hfold
  obtain ⟨mid', hmid', hrest⟩ := hfold
  rw [List.foldlM_append, bind_eq_ok] at hmid
  obtain ⟨mid'', hmid'', hsk⟩ := hmid
  cases hmid'.symm.trans hmid''
  rw [foldlM_skipped hskip hsk, List.dropLast_concat]
  exact hrest

theorem foldlM_names {route : List String} {next : Place} (hp : ∀ name ∈ place, IsName name)
    (hr : ∀ s ∈ route, '/' ∉ s.toList) (h : route.foldlM tree.descend place = .ok next) :
    ∀ name ∈ next, IsName name := by
  induction route generalizing place with
  | nil =>
    cases h
    exact hp
  | cons s route ih =>
    rw [List.foldlM_cons, bind_eq_ok] at h
    obtain ⟨mid, hmid, hrest⟩ := h
    refine ih ?_ (fun t ht ↦ hr t (List.mem_cons_of_mem _ ht)) hrest
    rcases (descend_ok hmid).2 with ⟨-, rfl⟩ | ⟨-, rfl⟩ | ⟨hskip, hparent, rfl⟩
    · exact hp
    · exact fun name hn ↦ hp name (List.dropLast_subset _ hn)
    · intro name hn
      rcases List.mem_append.1 hn with hn | hn
      · exact hp name hn
      · rw [List.mem_singleton] at hn
        exact hn ▸ ⟨hskip, hparent, hr s List.mem_cons_self⟩

theorem names_of_locate (ht : tree.WithoutLinks) (h : tree.locate .follow p = .ok place) :
    ∀ name ∈ place, IsName name := by
  refine foldlM_names ?_ (fun s hs ↦ not_mem_of_mem_segments hs) (foldlM_of_locate ht h)
  unfold startOf
  split
  · simp
  · exact ht.working_names

theorem components_pathOf (h : ∀ name ∈ place, IsName name) :
    (pathOf place).components = .root :: place.map .name := by
  have htext : pathOf place = ⟨"" ++ "/" ++ "/".intercalate place⟩ := by simp [pathOf]
  have hempty : segments ⟨""⟩ = [""] := rfl
  cases place with
  | nil => rfl
  | cons name place =>
    have hs : segments (pathOf (name :: place)) = "" :: name :: place := by
      rw [htext, segments_append_slash, hempty,
        segments_intercalate (by simp) (fun s hs ↦ (h s hs).no_slash)]
      rfl
    have hpieces : (name :: place).map Piece.ofText =
        (name :: place).map fun s ↦ ⟨s, some (.name s)⟩ :=
      List.map_congr_left (fun s hs ↦ (h s hs).ofText)
    have hroot : Piece.ofFirst "" (!(name :: place).isEmpty) = ⟨"", some .root⟩ := rfl
    rw [components, pieces_of_segments hs, hroot, hpieces]
    simp [List.filterMap_map]

theorem pathOf_injective {place' : Place} (h : ∀ name ∈ place, IsName name)
    (h' : ∀ name ∈ place', IsName name)
    (he : (pathOf place).components = (pathOf place').components) : place = place' := by
  rw [components_pathOf h, components_pathOf h', List.cons.injEq] at he
  exact List.map_injective_iff.2 (fun a b hab ↦ by simpa using hab) he.2

end FileTree

namespace Configuration

open FileTree

variable {tree : FileTree} {plugins : Plugins} {c d d' : Configuration} {extra : List String}
  {path path' : Path}

theorem fields_of_spelling (hp : tree.locate .follow path = tree.locate .follow path')
    (hn : path.fileName? = path'.fileName?) (h : load tree path = .ok d)
    (h' : load tree path' = .ok d') : d.fields = d'.fields := by
  have hread : readText tree path = readText tree path' := by
    simp only [readText, FileTree.read, FileTree.lookup, hp]
  have htext (text : String) : ofText path text = ofText path' text := by
    have he : path.extension? = path'.extension? := by rw [Path.extension?, hn, Path.extension?]
    rw [ofText, he, ofText]
  obtain ⟨text, e, ht, he, rfl⟩ := load_eq_ok.1 h
  obtain ⟨text', e', ht', he', rfl⟩ := load_eq_ok.1 h'
  cases ht.symm.trans (hread.trans ht')
  cases he.symm.trans ((htext text).trans he')
  rfl

theorem listed_of_fields (h : d.fields = d'.fields) (key : String) :
    d.listed key = d'.listed key := by
  simp only [listed, strings, get?, h]

/-- In a tree without links the spelling of a file does not matter for what it refers to. -/
theorem spellingFree (ht : tree.WithoutLinks)
    (hl : ∀ visited path, Trail tree plugins c extra visited path →
      ∃ d, load tree path = .ok d) : SpellingFree tree plugins c extra := by
  intro visited visited' path path' d d' next htrail htrail' hkey hd hd' hnext
  obtain ⟨place, -, hplace, -, hfile⟩ := locate_of_load hd
  obtain ⟨place', -, hplace', -, hfile'⟩ := locate_of_load hd'
  rw [fileKey_of_locate hplace, fileKey_of_locate hplace'] at hkey
  have hsame := pathOf_injective (names_of_locate ht hplace) (names_of_locate ht hplace') hkey
  subst hsame
  obtain ⟨front, name, mid, hseg, hname, -, hend⟩ := locate_file ht hplace hfile
  obtain ⟨front', name', mid', hseg', hname', -, hend'⟩ := locate_file ht hplace' hfile'
  have hnames : name = name' := by
    rw [hend] at hend'
    exact (List.append_inj' hend' rfl).2 |> List.singleton_inj.1
  have hfields : d.fields = d'.fields := by
    refine fields_of_spelling (hplace.trans hplace'.symm) ?_ hd hd'
    rw [Path.fileName?_of_segments hseg hname, Path.fileName?_of_segments hseg' hname', hnames]
  rcases List.mem_append.1 hnext with hn | hn
  · obtain ⟨file, hlisted, rfl⟩ := List.mem_map.1 hn
    have hmem : d'.lookedUp file ∈ references tree plugins d' [] := by
      refine List.mem_append_left _ (List.mem_map.2 ⟨file, ?_, rfl⟩)
      rwa [← listed_of_fields hfields]
    refine ⟨_, hmem, ?_⟩
    have hdir (e : Configuration) (p : Path) (h : load tree p = .ok e) :
        e.lookedUp file = (p.parent?.getD ⟨""⟩).join ⟨file⟩ := by
      simp only [lookedUp_eq, directory, path_of_load h, Option.bind_some]
    cases habs : Path.isAbsolute ⟨file⟩ with
    | true => simp [hdir d path hd, hdir d' path' hd', Path.join, habs]
    | false =>
      obtain ⟨e, he⟩ := hl _ _ (htrail.step hd hnext)
      obtain ⟨e', he'⟩ := hl _ _ (htrail'.step hd' hmem)
      obtain ⟨q, -, hq, -, -⟩ := locate_of_load he
      obtain ⟨q', -, hq', -, -⟩ := locate_of_load he'
      rw [fileKey_of_locate hq, fileKey_of_locate hq']
      rw [hdir d path hd] at hq
      rw [hdir d' path' hd'] at hq'
      have h₁ := locate_beside ht hplace hfile habs hq
      have h₂ := locate_beside ht hplace' hfile' habs hq'
      cases h₁.symm.trans h₂
      rfl
  · refine ⟨next, List.mem_append_right _ ?_, rfl⟩
    rwa [← listed_of_fields hfields]

end Configuration

end LintEngine
