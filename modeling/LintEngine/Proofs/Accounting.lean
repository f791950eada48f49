import LintEngine.Proofs.Discovery
import LintEngine.Proofs.Jobs

namespace LintEngine

theorem filter_same_eq {lints : List Lint} (h : Path.Distinct (lints.map (·.path))) {lint : Lint}
    (hlint : lint ∈ lints) : lints.filter (·.path.same lint.path) = [lint] := by
  induction lints with
  | nil => simp at hlint
  | cons first rest ih =>
    rw [List.map_cons, Path.Distinct, List.pairwise_cons] at h
    obtain ⟨hfirst, hrest⟩ := h
    rcases List.mem_cons.1 hlint with rfl | hlint
    · have hnone : rest.filter (·.path.same lint.path) = [] := by
        refine List.filter_eq_nil_iff.2 fun other ho ↦ ?_
        rw [Path.same_comm, hfirst other.path (List.mem_map_of_mem ho)]
        exact Bool.false_ne_true
      rw [List.filter_cons_of_pos (by simp [Path.same_self]), hnone]
    · have hne : first.path.same lint.path = false :=
        hfirst lint.path (List.mem_map_of_mem hlint)
      rw [List.filter_cons_of_neg (by simp [hne]), ih hrest hlint]

theorem ParseError.range_withPath (e : ParseError) (path : Path) :
    (e.withPath path).range = e.range := by
  unfold withPath
  split <;> rfl

theorem ParseError.message_withPath (e : ParseError) (path : Path) :
    (e.withPath path).message = e.message := by
  unfold withPath
  split <;> rfl

namespace Run

variable {a : Application} {c : Configuration} {options : RunOptions} {world : World}

/-- The only lint about a file says that it is no document, and why. -/
def NoDocument (report : Report) (c : Configuration) (path : Path) (e : ParseError) : Prop :=
  report.lints.filter (·.path.same path) =
    [{ linter := none
       path := path
       range := e.range.getD .start
       message := "Error occurred while parsing " ++ path.text ++ ": " ++ e.message
       severity := c.namedSeverity "parse_exception_severity"
       exception := some (.unparsable (e.withPath path)) }]

/-- What becomes of a file: it is inspected, or its bytes are those of no text, or the parser
rejects what preprocessing leaves of it. -/
inductive Fate (x : Setup a c options world) (report : Report) (path : Path) : Prop
  | inspected {file : FileToLint} {words : Option ℕ} : file ∈ x.sources.files → file.path = path →
      SourceFiles.Holds c options world file → a.parser.parse c file.content = .ok words →
      path ∈ report.documents → Fate x report path
  | notText {fault : Text.EncodingFault} :
      SourceFiles.HoldsNoText options world.tree path fault →
      NoDocument report c path ⟨"invalid UTF-8: " ++ fault.message, some path, some .start⟩ →
      Fate x report path
  | rejected {file : FileToLint} {e : ParseError} : file ∈ x.sources.files → file.path = path →
      SourceFiles.Holds c options world file → a.parser.parse c file.content = .error e →
      NoDocument report c path e → Fate x report path

namespace Setup

variable {results : List JobResult} {files : List Path}

theorem signed_results {x : Setup a c options world}
    (h : List.Forall₂ (Assignment.ComesTo x.settings) x.assignments results) {lint : Lint}
    (hlint : lint ∈ results.flatMap (·.lints)) :
    lint.linter.isNone = false ∧ lint.path ∈ x.inspected := by
  obtain ⟨r, hr, hlint⟩ := List.mem_flatMap.1 hlint
  obtain ⟨p, hp, hr⟩ := exists_of_mem_right h hr
  obtain ⟨hlinter, hpath⟩ := hr.signed hlint
  rw [hlinter, hpath]
  exact ⟨rfl, List.mem_map_of_mem (mem_documents hp)⟩

theorem perm_filter_isNone (x : Setup a c options world)
    (h : List.Forall₂ (Assignment.ComesTo x.settings) x.assignments results) :
    ((x.report results).lints.filter (·.linter.isNone)).Perm x.loaded.lints := by
  have hjobs : (results.flatMap (·.lints)).filter (·.linter.isNone) = [] :=
    List.filter_eq_nil_iff.2 fun lint hlint ↦ by simp [(signed_results h hlint).1]
  have hloaded : x.loaded.lints.filter (·.linter.isNone) = x.loaded.lints :=
    List.filter_eq_self.2 fun lint hlint ↦ by simp [SourceFiles.linter_parse hlint]
  have hfilter := (x.perm_lints results).filter (·.linter.isNone)
  rwa [List.filter_append, hjobs, hloaded, List.nil_append] at hfilter

theorem filter_same_path (x : Setup a c options world)
    (h : List.Forall₂ (Assignment.ComesTo x.settings) x.assignments results)
    (hdistinct : Path.Distinct (x.inspected ++ x.loaded.lints.map (·.path))) {lint : Lint}
    (hlint : lint ∈ x.loaded.lints) :
    (x.report results).lints.filter (·.path.same lint.path) = [lint] := by
  obtain ⟨-, hlints, hapart⟩ := List.pairwise_append.1 hdistinct
  have hjobs : (results.flatMap (·.lints)).filter (·.path.same lint.path) = [] := by
    refine List.filter_eq_nil_iff.2 fun other ho ↦ ?_
    rw [hapart other.path (signed_results h ho).2 lint.path (List.mem_map_of_mem hlint)]
    exact Bool.false_ne_true
  have hfilter := (x.perm_lints results).filter (·.path.same lint.path)
  rw [List.filter_append, hjobs, filter_same_eq hlints hlint, List.nil_append] at hfilter
  exact List.perm_singleton.1 hfilter

theorem noDocument (x : Setup a c options world)
    (h : List.Forall₂ (Assignment.ComesTo x.settings) x.assignments results)
    (hdistinct : Path.Distinct (x.inspected ++ x.loaded.lints.map (·.path))) {path : Path}
    {e : ParseError}
    (hlint : SourceFiles.failureLint (SourceFiles.failureSeverity c) path (e.withPath path) ∈
      x.loaded.lints) : NoDocument (x.report results) c path e := by
  have hfilter := x.filter_same_path h hdistinct hlint
  unfold NoDocument
  simpa only [SourceFiles.failureLint, SourceFiles.failureSeverity_eq, ParseError.range_withPath,
    ParseError.message_withPath, toString] using hfilter

theorem perm_files (x : Setup a c options world)
    (h : List.Forall₂ (Assignment.ComesTo x.settings) x.assignments results)
    (hgathers : SourceFiles.Gathers c options world files x.sources) :
    ((x.report results).documents ++
      ((x.report results).lints.filter (·.linter.isNone)).map (·.path)).Perm files :=
  (((x.perm_filter_isNone h).map _).append_left _).trans (hgathers.perm_parse a.parser)

theorem fate (x : Setup a c options world)
    (h : List.Forall₂ (Assignment.ComesTo x.settings) x.assignments results)
    (hgathers : SourceFiles.Gathers c options world files x.sources)
    (hfiles : Path.Distinct files) {path : Path} (hpath : path ∈ files) :
    Fate x (x.report results) path := by
  have hdistinct : Path.Distinct (x.inspected ++ x.loaded.lints.map (·.path)) :=
    hfiles.perm (hgathers.perm_parse a.parser).symm
  -- The file has been decoded and gone on to the parser, or it has not been decoded.
  rcases List.mem_append.1 (hgathers.perm.symm.subset hpath) with hmem | hmem
  · obtain ⟨file, hfile, rfl⟩ := List.mem_map.1 hmem
    have hholds := hgathers.text file hfile
    cases hparse : a.parser.parse c file.content with
    | error e =>
      exact .rejected hfile rfl hholds hparse
        (x.noDocument h hdistinct (SourceFiles.lint_of_rejected hfile hparse))
    | ok words =>
      exact .inspected hfile rfl hholds hparse (SourceFiles.mem_of_accepted hfile hparse)
  · obtain ⟨entry, hentry, rfl⟩ := List.mem_map.1 hmem
    obtain ⟨fault, hfault, -⟩ := hgathers.fault entry hentry
    exact .notText hfault (x.noDocument h hdistinct (hgathers.lint_of_fault hpath hfault))

theorem performs (x : Setup a c options world) {jobs : List ScheduledJob}
    (hjobs : jobsFor x.selection x.tree.workingDirectory x.inspected = .ok jobs)
    {s : ScheduledJob} (hs : s ∈ jobs) :
    ∃ file ∈ x.sources.files, file.path = s.job.path ∧ ∃ words,
      a.parser.parse c file.content = .ok words ∧
      perform x.settings x.loaded.documents s = some ⟨s.job, s.lints x.settings
        ⟨file.content, Text.lines file.content, some file.path, words⟩⟩ := by
  obtain ⟨p, hp, -, hjob⟩ := exists_of_mem_right (forall₂_jobsFor hjobs) hs
  have hdocument := mem_documents hp
  have hpath : s.job.path = documentPath p.1 := by rw [hjob]; rfl
  obtain ⟨file, hfile, hparse⟩ :=
    (SourceFiles.parses_parse x.sources a.parser c).document p.1 hdocument
  obtain ⟨words, hwords, heq⟩ := SourceFiles.exists_of_parse hparse
  refine ⟨file, hfile, ?_, words, hwords, ?_⟩
  · rw [hpath, SourceFiles.documentPath_of_parse hparse]
  · rw [← heq]
    exact perform_eq x.distinct_inspected hdocument hpath

end Setup

/-- Each file that a run is about is inspected or has one lint that says why it is not. Files are
inspected in their order, no linter has a lint about a file that is not inspected, and every job
runs on the document of its own file. -/
theorem files_accounted (a : Application) (c : Configuration) (options : RunOptions)
    (world : World) (workers : ℕ) (schedule : ℕ → Schedule)
    (hs : options.concurrency.isSome → ∀ count, (schedule count).Completes workers count)
    (report : Report) (h : (start a c options world schedule).result = .ok report) :
    ∃ (x : Setup a c options world) (files : List Path) (jobs : List ScheduledJob),
      SourceFiles.located a c options world.tree = .ok files ∧ Path.Distinct files ∧
      (report.documents ++ (report.lints.filter (·.linter.isNone)).map (·.path)).Perm files ∧
      report.documents.Sublist files ∧
      (∀ path ∈ files, Fate x report path) ∧
      jobsFor x.selection x.tree.workingDirectory report.documents = .ok jobs ∧
      ∀ s ∈ jobs, ∃ file ∈ x.sources.files, file.path = s.job.path ∧
        SourceFiles.Holds c options world file ∧
        ∃ words, a.parser.parse c file.content = .ok words ∧
          perform x.settings x.loaded.documents s = some ⟨s.job, s.lints x.settings
            ⟨file.content, Text.lines file.content, some file.path, words⟩⟩ := by
  obtain ⟨x, jobs, results, hjobs, hresults, rfl⟩ := Setup.exists_of_result hs h
  obtain ⟨files, hfiles, hgathers⟩ := x.gathers
  have hdistinct := (SourceFiles.ascending_located hfiles).distinct
  refine ⟨x, files, jobs, hfiles, hdistinct, x.perm_files hresults hgathers,
    hgathers.sublist_parse a.parser, fun path hpath ↦ x.fate hresults hgathers hdistinct hpath,
    hjobs, fun s hs ↦ ?_⟩
  obtain ⟨file, hfile, hpath, hperform⟩ := x.performs hjobs hs
  exact ⟨file, hfile, hpath, hgathers.text file hfile, hperform⟩

end Run

def rejectingText : Application :=
  { twoLinters with parser := .counting (some ("x", ⟨"bad", some ⟨"b.txt"⟩, none⟩)) }

open Search (fourFiles)

def intoDirectory : RunOptions :=
  { RunOptions.none with
    includedLinters := ["A", "B"]
    includedPaths := ["./d"] }

def parseWarnings : Configuration :=
  ⟨[("file_extensions", .string ".t"), ("parse_exception_severity", .string "warning")], none⟩

theorem located_fourFiles :
    SourceFiles.located rejectingText parseWarnings intoDirectory fourFiles =
      .ok [⟨"d/a.t"⟩, ⟨"d/b.t"⟩, ⟨"d/c.t"⟩] := by
  have hsearch : SourceFiles.search rejectingText parseWarnings intoDirectory =
      .ok ⟨["./d"], [], [], [], [".t"]⟩ := rfl
  have hascending : Path.Ascending [⟨"d/a.t"⟩, ⟨"d/b.t"⟩, ⟨"d/c.t"⟩] := by
    simp only [Path.Ascending, List.pairwise_cons]
    decide
  refine Result.bind_eq_ok.2 ⟨_, hsearch, Search.find_eq_ok.2
    ⟨[[⟨"d/a.t"⟩, ⟨"d/b.t"⟩, ⟨"d/c.t"⟩]], [], ⟨[]⟩, ?_, rfl, rfl, ?_⟩⟩
  · simp [Search.sources, Search.candidates_fourFiles, bind, Except.bind, pure, Except.pure]
  · simp [Search.sortDistinct_eq hascending (List.Perm.refl _), Search.isExcluded_without_globs]

theorem read_fourFiles : fourFiles.read ⟨"d/a.t"⟩ = .ok "y".toUTF8 ∧
    fourFiles.read ⟨"d/b.t"⟩ = .ok ⟨#[255]⟩ ∧ fourFiles.read ⟨"d/c.t"⟩ = .ok "x".toUTF8 := by
  obtain ⟨-, -, ha, hb, hc⟩ := Search.locate_fourFiles
  have hna : fourFiles.node? ["d", "a.t"] = some (.file "y".toUTF8) := rfl
  have hnb : fourFiles.node? ["d", "b.t"] = some (.file ⟨#[255]⟩) := rfl
  have hnc : fourFiles.node? ["d", "c.t"] = some (.file "x".toUTF8) := rfl
  simp only [FileTree.read, FileTree.lookup, ha, hb, hc, hna, hnb, hnc, bind, Except.bind, and_self]

theorem decode_lone : Text.decode ⟨#[255]⟩ = .error ⟨0, some 1⟩ := by
  rw [Text.decode, Text.toList_eq]
  rfl

theorem load_fourFiles (run : CommandRunner) :
    SourceFiles.load rejectingText parseWarnings intoDirectory ⟨fourFiles, run⟩ =
      (fourFiles, .ok ⟨[⟨⟨"d/a.t"⟩, "y"⟩, ⟨⟨"d/c.t"⟩, "x"⟩],
        [(⟨"d/b.t"⟩, SourceFiles.encodingError ⟨"d/b.t"⟩ ⟨0, some 1⟩)]⟩) := by
  obtain ⟨ha, hb, hc⟩ := read_fourFiles
  have hread : SourceFiles.read fourFiles [⟨"d/a.t"⟩, ⟨"d/b.t"⟩, ⟨"d/c.t"⟩] =
      .ok ⟨[⟨⟨"d/a.t"⟩, "y"⟩, ⟨⟨"d/c.t"⟩, "x"⟩],
        [(⟨"d/b.t"⟩, SourceFiles.encodingError ⟨"d/b.t"⟩ ⟨0, some 1⟩)]⟩ := by
    simp only [SourceFiles.read, ha, hb, hc, Text.decode_toUTF8, decode_lone, bind, Except.bind]
  obtain ⟨search, hsearch, hfind⟩ := Result.bind_eq_ok.1 located_fourFiles
  have hprepare : SourceFiles.prepare rejectingText parseWarnings intoDirectory fourFiles =
      .ok (⟨[⟨⟨"d/a.t"⟩, "y"⟩, ⟨⟨"d/c.t"⟩, "x"⟩],
        [(⟨"d/b.t"⟩, SourceFiles.encodingError ⟨"d/b.t"⟩ ⟨0, some 1⟩)]⟩, ⟨none, none⟩) :=
    Result.bind_eq_ok.2 ⟨_, Result.bind_eq_ok.2 ⟨search, hsearch,
      Result.bind_eq_ok.2 ⟨_, hfind, hread⟩⟩, rfl⟩
  simp only [SourceFiles.load, hprepare]
  rfl

theorem start_fourFiles (run : CommandRunner) : ∃ report,
    (Run.start rejectingText parseWarnings intoDirectory ⟨fourFiles, run⟩
      Schedule.oneByOne).result = .ok report ∧ report.documents = [⟨"d/a.t"⟩] := by
  simp only [Run.start, load_fourFiles]
  exact ⟨_, rfl, rfl⟩

theorem jobsFor_rejectingText {w : Path} {selection : Selection} {jobs : List ScheduledJob}
    (h : Selection.make rejectingText.linters parseWarnings ["A", "B"] [] = .ok selection)
    (hjobs : Run.jobsFor selection w [⟨"d/a.t"⟩] = .ok jobs) :
    jobs.map (·.job) = [⟨⟨"d/a.t"⟩, "A"⟩, ⟨⟨"d/a.t"⟩, "B"⟩] := by
  cases h
  simp only [Run.jobsFor, Selection.forFile, SelectedLinter.appliesTo] at hjobs
  cases hjobs
  rfl

theorem files_accounted_fourFiles :
    ∃ report, (Run.start rejectingText parseWarnings intoDirectory
        ⟨fourFiles, fun tree _ _ ↦ (tree, .killed)⟩ Schedule.oneByOne).result = .ok report ∧
      (report.documents ++ (report.lints.filter (·.linter.isNone)).map (·.path)).Perm
        [⟨"d/a.t"⟩, ⟨"d/b.t"⟩, ⟨"d/c.t"⟩] ∧
      report.documents = [⟨"d/a.t"⟩] ∧
      parseWarnings.namedSeverity "parse_exception_severity" = .warning ∧
      Run.NoDocument report parseWarnings ⟨"d/b.t"⟩
        ⟨"invalid UTF-8: invalid utf-8 sequence of 1 bytes from index 0", some ⟨"d/b.t"⟩,
          some .start⟩ ∧
      Run.NoDocument report parseWarnings ⟨"d/c.t"⟩ ⟨"bad", some ⟨"b.txt"⟩, none⟩ ∧
      ∃ (x : Run.Setup rejectingText parseWarnings intoDirectory
          ⟨fourFiles, fun tree _ _ ↦ (tree, .killed)⟩) (jobs : List ScheduledJob),
        jobs.map (·.job) = [⟨⟨"d/a.t"⟩, "A"⟩, ⟨⟨"d/a.t"⟩, "B"⟩] ∧
        ∀ s ∈ jobs, Run.perform x.settings x.loaded.documents s =
          some ⟨s.job, s.lints x.settings ⟨"y", ["y"], some ⟨"d/a.t"⟩, some 1⟩⟩ := by
  obtain ⟨report, h, hdocuments⟩ := start_fourFiles fun tree _ _ ↦ (tree, .killed)
  obtain ⟨x, files, jobs, hfiles, -, hperm, -, hfate, hjobs, hperform⟩ :=
    Run.files_accounted rejectingText parseWarnings intoDirectory
      ⟨fourFiles, fun tree _ _ ↦ (tree, .killed)⟩ 1 Schedule.oneByOne (fun h ↦ by cases h) report h
  obtain rfl := Except.ok.inj (located_fourFiles.symm.trans hfiles)
  obtain ⟨ha, hb, hc⟩ := read_fourFiles
  have hsources : x.sources.files = [⟨⟨"d/a.t"⟩, "y"⟩, ⟨⟨"d/c.t"⟩, "x"⟩] := by
    have hload := x.sources_eq
    rw [load_fourFiles] at hload
    rw [← Except.ok.inj hload]
  have hmem : ∀ file ∈ x.sources.files,
      file.path = ⟨"d/a.t"⟩ ∧ file.content = "y" ∨ file.path = ⟨"d/c.t"⟩ ∧ file.content = "x" := by
    rw [hsources]
    simp
  have hpaths : (⟨"d/b.t"⟩ : Path) ≠ ⟨"d/a.t"⟩ ∧ (⟨"d/b.t"⟩ : Path) ≠ ⟨"d/c.t"⟩ ∧
      (⟨"d/c.t"⟩ : Path) ≠ ⟨"d/a.t"⟩ := by decide
  have hnamed : jobs.map (·.job) = [⟨⟨"d/a.t"⟩, "A"⟩, ⟨⟨"d/a.t"⟩, "B"⟩] := by
    rw [hdocuments] at hjobs
    exact jobsFor_rejectingText x.selection_eq hjobs
  refine ⟨report, h, hperm, hdocuments, rfl, ?_, ?_, x, jobs, hnamed, fun s hs ↦ ?_⟩
  · cases hfate ⟨"d/b.t"⟩ (by decide) with
    | inspected _ _ _ _ hinspected => exact absurd (hdocuments ▸ hinspected) (by decide)
    | notText hfault hno =>
      obtain ⟨-, bytes, hbytes, -, hfault⟩ := hfault
      cases hbytes.symm.trans hb
      cases hfault.symm.trans decode_lone
      exact hno
    | rejected hfile hpath _ _ _ =>
      rcases hmem _ hfile with ⟨hfile, -⟩ | ⟨hfile, -⟩
      · exact absurd (hpath.symm.trans hfile) hpaths.1
      · exact absurd (hpath.symm.trans hfile) hpaths.2.1
  · cases hfate ⟨"d/c.t"⟩ (by decide) with
    | inspected _ _ _ _ hinspected => exact absurd (hdocuments ▸ hinspected) (by decide)
    | notText hno _ =>
      obtain ⟨-, bytes, hbytes, hno, -⟩ := hno
      exact absurd (Except.ok.inj (hbytes.symm.trans hc)) (hno "x")
    | rejected hfile hpath _ hparse hno =>
      rcases hmem _ hfile with ⟨hfile, -⟩ | ⟨-, hcontent⟩
      · exact absurd (hpath.symm.trans hfile) hpaths.2.2
      · rw [hcontent] at hparse
        cases hparse
        exact hno
  · obtain ⟨file, hfile, hpath, -, words, hwords, hresult⟩ := hperform s hs
    have hjob : s.job.path = ⟨"d/a.t"⟩ := by
      have hmap := List.mem_map_of_mem (f := (·.job)) hs
      rw [hnamed] at hmap
      simp only [List.mem_cons, List.not_mem_nil, or_false] at hmap
      rcases hmap with hmap | hmap <;> rw [hmap]
    rw [hjob] at hpath
    rcases hmem file hfile with ⟨-, hcontent⟩ | ⟨hfile, -⟩
    · rw [hcontent] at hwords
      cases hwords
      rw [hpath, hcontent] at hresult
      exact hresult
    · exact absurd (hfile.symm.trans hpath) hpaths.2.2

end LintEngine
