import LintEngine.Proofs.Decoding
import LintEngine.Proofs.FoundFiles
import LintEngine.Proofs.Related
import LintEngine.Run.Basic
import Mathlib.Data.List.Perm.Basic

namespace LintEngine

/-- What preprocessing makes of a file: nothing else, or the text whose bytes the command puts out
for its content. -/
inductive Preprocessor.Gives (run : CommandRunner) (workingDirectory : Path) (p : Preprocessor)
    (file : FileToLint) : FileToLint → Prop
  | untouched : p.command = none ∨ p.appliesTo workingDirectory file.path = false →
      Gives run workingDirectory p file file
  | passed {command content : String} {tree : FileTree} : p.command = some command →
      p.appliesTo workingDirectory file.path = true →
      (run tree command file.content.toUTF8).2 = .exited 0 content.toUTF8 →
      Gives run workingDirectory p file { file with content := content }

namespace Preprocessor

variable {run : CommandRunner} {workingDirectory : Path} {p : Preprocessor} {command : String}
  {tree : FileTree} {file file' : FileToLint} {files : List FileToLint}

theorem Gives.path_eq (h : p.Gives run workingDirectory file file') : file'.path = file.path := by
  cases h <;> rfl

theorem newContent_eq_ok {completion : Completion} {content : String} :
    newContent completion = .ok content ↔ completion = .exited 0 content.toUTF8 := by
  cases completion with
  | notStarted fault => simp [newContent]
  | killed => simp [newContent]
  | exited status output =>
    cases status with
    | succ status => simp [newContent]
    | zero =>
      rw [newContent, Completion.exited.injEq, ← Text.decode_eq_ok, Result.mapError_ok_iff]
      simp

theorem forall₂_processWith (hp : p.command = some command)
    (h : (processWith run workingDirectory p command tree files).outcome = .ok ()) :
    List.Forall₂ (p.Gives run workingDirectory) files
      (processWith run workingDirectory p command tree files).files := by
  induction files generalizing tree with
  | nil => exact .nil
  | cons file rest ih =>
    rw [processWith] at h ⊢
    split at h
    · next happlies =>
      simp only [happlies, if_true]
      dsimp only at h
      split at h
      · cases h
      · next content hcontent =>
        exact .cons (.passed hp happlies (newContent_eq_ok.1 hcontent)) (ih h)
    · next happlies =>
      rw [if_neg happlies]
      exact .cons (.untouched (.inr (by simpa using happlies))) (ih h)

theorem forall₂_process (h : (process run tree p files).outcome = .ok ()) :
    List.Forall₂ (p.Gives run tree.workingDirectory) files (process run tree p files).files := by
  unfold process at h ⊢
  split at h
  · next hp => exact List.forall₂_same.2 fun file _ ↦ .untouched (.inl hp)
  · next command hp => exact forall₂_processWith hp h

end Preprocessor

namespace Configuration

/-- The severity that a configuration names under a key, that of errors if there is no name. -/
def namedSeverity (c : Configuration) (key : String) : Severity :=
  match c.fields.lookup key with
  | some (.string name) => .ofName name
  | _ => .error

theorem severity_error (c : Configuration) (key : String) :
    c.severity key .error = c.namedSeverity key := by
  unfold severity getString? namedSeverity get? Fields.get?
  cases c.fields.lookup key with
  | none => rfl
  | some value => cases value <;> rfl

end Configuration

namespace SourceFiles

variable {a : Application} {c : Configuration} {options : RunOptions} {world : World}
  {tree : FileTree} {paths : List Path} {s : SourceFiles} {file : FileToLint}

/-- The files that a run is about: the one that stands for the standard input, or else those that
the search finds. -/
def located (a : Application) (c : Configuration) (options : RunOptions) (tree : FileTree) :
    Except Error (List Path) :=
  match options.standardInput with
  | some input => .ok [input.path]
  | none => do
    let search ← search a c options
    search.find tree

/-- A file holds a text: the standard input stands for the file, or its bytes are those of the
text. -/
def HoldsText (options : RunOptions) (tree : FileTree) (path : Path) (text : String) : Prop :=
  match options.standardInput with
  | some input => text = input.content
  | none => tree.read path = .ok text.toUTF8

/-- A file holds bytes that are those of no text, for a fault that is found in them. -/
def HoldsNoText (options : RunOptions) (tree : FileTree) (path : Path)
    (fault : Text.EncodingFault) : Prop :=
  options.standardInput = none ∧ ∃ bytes, tree.read path = .ok bytes ∧
    (∀ text : String, bytes ≠ text.toUTF8) ∧ Text.decode bytes = .error fault

theorem HoldsText.not_holdsNoText {path : Path} {text : String} {fault : Text.EncodingFault}
    (h : HoldsText options tree path text) : ¬ HoldsNoText options tree path fault := by
  rintro ⟨hinput, bytes, hbytes, hno, -⟩
  simp only [HoldsText, hinput] at h
  exact hno text (Except.ok.inj (hbytes.symm.trans h))

theorem HoldsNoText.unique {path : Path} {fault fault' : Text.EncodingFault}
    (h : HoldsNoText options tree path fault) (h' : HoldsNoText options tree path fault') :
    fault' = fault := by
  obtain ⟨-, bytes, hbytes, -, hfault⟩ := h
  obtain ⟨-, bytes', hbytes', -, hfault'⟩ := h'
  cases hbytes.symm.trans hbytes'
  exact Except.error.inj (hfault'.symm.trans hfault)

theorem ascending_located (h : located a c options tree = .ok paths) : Path.Ascending paths := by
  unfold located at h
  split at h
  · cases h
    exact List.pairwise_singleton _ _
  · obtain ⟨search, -, hfind⟩ := Result.bind_eq_ok.1 h
    exact Search.ascending_find hfind

/-- Files are split into those that are texts and those that are none. Each comes once, with what
stands in its own place. -/
structure Splits (text : FileToLint → Prop) (fault : Path → Text.EncodingFault → Prop)
    (paths : List Path) (s : SourceFiles) : Prop where
  perm : (s.files.map (·.path) ++ s.undecodable.map (·.1)).Perm paths
  sublist : (s.files.map (·.path)).Sublist paths
  text : ∀ file ∈ s.files, text file
  fault : ∀ entry ∈ s.undecodable, ∃ f, fault entry.1 f ∧ entry.2 = encodingError entry.1 f

theorem splits_read (h : read tree paths = .ok s) :
    s.Splits (fun file ↦ tree.read file.path = .ok file.content.toUTF8)
      (fun path f ↦ ∃ bytes, tree.read path = .ok bytes ∧
        (∀ text : String, bytes ≠ text.toUTF8) ∧ Text.decode bytes = .error f) paths := by
  induction paths generalizing s with
  | nil =>
    cases h
    exact ⟨.nil, .slnil, by simp, by simp⟩
  | cons path rest ih =>
    rw [read] at h
    split at h
    · cases h
    · next bytes hbytes =>
      obtain ⟨more, hmore, h⟩ := Result.bind_eq_ok.1 h
      have hsplit := ih hmore
      split at h
      · next content hcontent =>
        cases h
        refine ⟨hsplit.perm.cons path, hsplit.sublist.cons_cons path, ?_, hsplit.fault⟩
        refine List.forall_mem_cons.2 ⟨?_, hsplit.text⟩
        rw [hbytes, Text.decode_eq_ok.1 hcontent]
      · next f hf =>
        cases h
        refine ⟨?_, hsplit.sublist.cons path, hsplit.text, ?_⟩
        · exact List.perm_middle.trans (hsplit.perm.cons path)
        · refine List.forall_mem_cons.2 ⟨⟨f, ⟨bytes, hbytes, ?_, hf⟩, rfl⟩, hsplit.fault⟩
          exact Text.decode_eq_error.1 ⟨f, hf⟩

theorem splits_find (h : find a c options tree = .ok s) :
    ∃ paths, located a c options tree = .ok paths ∧
      s.Splits (fun file ↦ HoldsText options tree file.path file.content)
        (HoldsNoText options tree) paths := by
  unfold find at h
  unfold located HoldsText HoldsNoText
  cases hinput : options.standardInput with
  | some input =>
    rw [hinput] at h
    cases h
    exact ⟨[input.path], rfl, .refl _, .refl _, by simp, by simp⟩
  | none =>
    rw [hinput] at h
    obtain ⟨search, hsearch, h⟩ := Result.bind_eq_ok.1 h
    obtain ⟨paths, hpaths, h⟩ := Result.bind_eq_ok.1 h
    have hsplit := splits_read h
    refine ⟨paths, Result.bind_eq_ok.2 ⟨search, hsearch, hpaths⟩, hsplit.perm, hsplit.sublist,
      hsplit.text, fun entry hentry ↦ ?_⟩
    obtain ⟨f, hf, he⟩ := hsplit.fault entry hentry
    exact ⟨f, ⟨rfl, hf⟩, he⟩

/-- A file has the text that stands in its place, as the preprocessor leaves it. -/
def Holds (c : Configuration) (options : RunOptions) (world : World) (file : FileToLint) : Prop :=
  ∃ text p, HoldsText options world.tree file.path text ∧
    Preprocessor.ofConfiguration c = .ok p ∧
    p.Gives world.command world.tree.workingDirectory ⟨file.path, text⟩ file

abbrev Gathers (c : Configuration) (options : RunOptions) (world : World) (paths : List Path)
    (s : SourceFiles) : Prop :=
  s.Splits (Holds c options world) (HoldsNoText options world.tree) paths

theorem gathers_load (h : (load a c options world).2 = .ok s) :
    ∃ paths, located a c options world.tree = .ok paths ∧ Gathers c options world paths s := by
  unfold load at h
  split at h
  · cases h
  · next found p hprepare =>
    simp only [prepare, Result.bind_eq_ok] at hprepare
    obtain ⟨found', hfind, p', hp, heq⟩ := hprepare
    cases heq
    obtain ⟨paths, hpaths, hsplit⟩ := splits_find hfind
    dsimp only at h
    cases hdone : (p.process world.command world.tree found.files).outcome with
    | error e =>
      rw [hdone] at h
      cases h
    | ok u =>
      rw [hdone] at h
      cases h
      have hgives := Preprocessor.forall₂_process hdone
      have hpath : found.files.map (·.path) =
          (p.process world.command world.tree found.files).files.map (·.path) :=
        map_eq_map hgives fun _ _ h ↦ h.path_eq.symm
      refine ⟨paths, hpaths, hpath ▸ hsplit.perm, hpath ▸ hsplit.sublist, fun file hfile ↦ ?_,
        hsplit.fault⟩
      obtain ⟨before, hbefore, hfile⟩ := exists_of_mem_right hgives hfile
      have htext := hsplit.text before hbefore
      rw [← hfile.path_eq] at htext
      refine ⟨before.content, p, htext, hp, ?_⟩
      rw [hfile.path_eq]
      exact hfile

theorem Gathers.paths_eq (h : Gathers c options world paths s)
    (hpaths : located a c options world.tree = .ok paths) : s.paths = paths :=
  (ascending_located hpaths).mergeSort_eq h.perm

theorem Gathers.mem_undecodable (h : Gathers c options world paths s) {path : Path}
    (hpath : path ∈ paths) {f : Text.EncodingFault}
    (hf : HoldsNoText options world.tree path f) :
    (path, encodingError path f) ∈ s.undecodable := by
  rcases List.mem_append.1 (h.perm.symm.subset hpath) with hmem | hmem
  · obtain ⟨file, hfile, rfl⟩ := List.mem_map.1 hmem
    obtain ⟨text, p, htext, -⟩ := h.text file hfile
    exact absurd hf htext.not_holdsNoText
  · obtain ⟨entry, hentry, rfl⟩ := List.mem_map.1 hmem
    obtain ⟨f', hf', he⟩ := h.fault entry hentry
    rw [hf'.unique hf, ← he]
    exact hentry

section Parsing

variable {parser : Parser} {severity : Severity} {files : List FileToLint} {document : Document}
  {loaded : LoadedDocuments}

/-- Files are split into documents and lints about those that are none, each of them one. -/
structure Parses (parser : Parser) (c : Configuration) (severity : Severity)
    (files : List FileToLint) (loaded : LoadedDocuments) : Prop where
  perm : (loaded.documents.map Run.documentPath ++ loaded.lints.map (·.path)).Perm
    (files.map (·.path))
  sublist : (loaded.documents.map Run.documentPath).Sublist (files.map (·.path))
  document : ∀ document ∈ loaded.documents, ∃ file ∈ files,
    Document.parse parser c (some file.path) file.content = .ok document
  accepted : ∀ file ∈ files, ∀ document,
    Document.parse parser c (some file.path) file.content = .ok document →
      document ∈ loaded.documents
  linter : ∀ lint ∈ loaded.lints, lint.linter = none
  lint : ∀ file ∈ files, ∀ e, Document.parse parser c (some file.path) file.content = .error e →
    failureLint severity file.path e ∈ loaded.lints

theorem exists_of_parse
    (h : Document.parse parser c (some file.path) file.content = .ok document) :
    ∃ words, parser.parse c file.content = .ok words ∧
      document = ⟨file.content, Text.lines file.content, some file.path, words⟩ := by
  unfold Document.parse at h
  split at h
  · next words hwords =>
    cases h
    exact ⟨words, hwords, rfl⟩
  · cases h

theorem documentPath_of_parse
    (h : Document.parse parser c (some file.path) file.content = .ok document) :
    Run.documentPath document = file.path := by
  obtain ⟨words, -, rfl⟩ := exists_of_parse h
  rfl

theorem parses_parseFiles (parser : Parser) (c : Configuration) (severity : Severity)
    (files : List FileToLint) :
    Parses parser c severity files (parseFiles parser c severity files) := by
  induction files with
  | nil => exact ⟨.nil, .slnil, by simp [parseFiles], by simp, by simp [parseFiles], by simp⟩
  | cons file rest ih =>
    rw [parseFiles]
    split
    · next document hdocument =>
      have hpath := documentPath_of_parse hdocument
      refine ⟨?_, ?_, ?_, ?_, ih.linter, ?_⟩
      · rw [List.map_cons, List.map_cons, hpath]
        exact ih.perm.cons file.path
      · rw [List.map_cons, List.map_cons, hpath]
        exact ih.sublist.cons_cons file.path
      · refine List.forall_mem_cons.2 ⟨⟨file, List.mem_cons_self, hdocument⟩, fun d hd ↦ ?_⟩
        obtain ⟨file', hfile', hd⟩ := ih.document d hd
        exact ⟨file', List.mem_cons_of_mem file hfile', hd⟩
      · refine List.forall_mem_cons.2 ⟨fun d hd ↦ ?_, fun file' hfile' d hd ↦ ?_⟩
        · rw [hdocument] at hd
          cases hd
          exact List.mem_cons_self
        · exact List.mem_cons_of_mem _ (ih.accepted file' hfile' d hd)
      · refine List.forall_mem_cons.2 ⟨fun e he ↦ ?_, ih.lint⟩
        rw [hdocument] at he
        cases he
    · next e he =>
      refine ⟨?_, ih.sublist.cons file.path, ?_, ?_, List.forall_mem_cons.2 ⟨rfl, ih.linter⟩, ?_⟩
      · exact List.perm_middle.trans (ih.perm.cons file.path)
      · intro d hd
        obtain ⟨file', hfile', hd⟩ := ih.document d hd
        exact ⟨file', List.mem_cons_of_mem file hfile', hd⟩
      · refine List.forall_mem_cons.2 ⟨fun d hd ↦ ?_, ih.accepted⟩
        rw [he] at hd
        cases hd
      · refine List.forall_mem_cons.2 ⟨fun e' he' ↦ ?_, fun file' hfile' e' he' ↦ ?_⟩
        · rw [he] at he'
          cases he'
          exact List.mem_cons_self
        · exact List.mem_cons_of_mem _ (ih.lint file' hfile' e' he')

def failureSeverity (c : Configuration) : Severity := c.severity "parse_exception_severity" .error

theorem failureSeverity_eq (c : Configuration) :
    failureSeverity c = c.namedSeverity "parse_exception_severity" :=
  c.severity_error _

theorem parses_parse (s : SourceFiles) (parser : Parser) (c : Configuration) :
    Parses parser c (failureSeverity c) s.files
      ⟨(s.parse parser c).documents,
        (parseFiles parser c (failureSeverity c) s.files).lints⟩ :=
  parses_parseFiles parser c (failureSeverity c) s.files

theorem parse_lints (s : SourceFiles) (parser : Parser) (c : Configuration) :
    (s.parse parser c).lints =
      (s.undecodable.map fun (path, e) ↦ failureLint (failureSeverity c) path e) ++
        (parseFiles parser c (failureSeverity c) s.files).lints := rfl

theorem Gathers.perm_parse (h : Gathers c options world paths s) (parser : Parser) :
    ((s.parse parser c).documents.map Run.documentPath ++
      (s.parse parser c).lints.map (·.path)).Perm paths := by
  have hparsed := (parses_parse s parser c).perm
  have hundecodable : (s.undecodable.map fun (path, e) ↦
      failureLint (failureSeverity c) path e).map (·.path) = s.undecodable.map (·.1) := by
    rw [List.map_map]
    rfl
  rw [parse_lints, List.map_append, hundecodable]
  calc List.Perm _ ((s.parse parser c).documents.map Run.documentPath ++
        ((parseFiles parser c (failureSeverity c) s.files).lints.map (·.path) ++
          s.undecodable.map (·.1))) := List.perm_append_comm.append_left _
    List.Perm _ (s.files.map (·.path) ++ s.undecodable.map (·.1)) := by
      rw [← List.append_assoc]
      exact hparsed.append_right _
    List.Perm _ paths := h.perm

theorem Gathers.sublist_parse (h : Gathers c options world paths s) (parser : Parser) :
    ((s.parse parser c).documents.map Run.documentPath).Sublist paths :=
  (parses_parse s parser c).sublist.trans h.sublist

theorem linter_parse {lint : Lint} (h : lint ∈ (s.parse parser c).lints) : lint.linter = none := by
  rw [parse_lints] at h
  rcases List.mem_append.1 h with h | h
  · obtain ⟨entry, -, rfl⟩ := List.mem_map.1 h
    rfl
  · exact (parses_parse s parser c).linter lint h

theorem Gathers.lint_of_fault (h : Gathers c options world paths s) {path : Path}
    (hpath : path ∈ paths) {f : Text.EncodingFault}
    (hf : HoldsNoText options world.tree path f) :
    failureLint (failureSeverity c) path (encodingError path f) ∈ (s.parse parser c).lints :=
  List.mem_append_left _ (List.mem_map.2 ⟨_, h.mem_undecodable hpath hf, rfl⟩)

theorem lint_of_rejected (hfile : file ∈ s.files) {e : ParseError}
    (he : parser.parse c file.content = .error e) :
    failureLint (failureSeverity c) file.path (e.withPath file.path) ∈
      (s.parse parser c).lints := by
  have hparse : Document.parse parser c (some file.path) file.content =
      .error (e.withPath file.path) := by
    simp only [Document.parse, he]
  exact List.mem_append_right _ ((parses_parse s parser c).lint file hfile _ hparse)

theorem mem_of_accepted (hfile : file ∈ s.files) {words : Option ℕ}
    (h : parser.parse c file.content = .ok words) :
    file.path ∈ (s.parse parser c).documents.map Run.documentPath := by
  obtain ⟨document, hparse⟩ : ∃ document,
      Document.parse parser c (some file.path) file.content = .ok document := by
    simp only [Document.parse, h]
    exact ⟨_, rfl⟩
  have hdocument := (parses_parse s parser c).accepted file hfile document hparse
  exact List.mem_map.2 ⟨document, hdocument, documentPath_of_parse hparse⟩

end Parsing

end SourceFiles

end LintEngine
