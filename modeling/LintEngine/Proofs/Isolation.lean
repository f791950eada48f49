import LintEngine.Proofs.Jobs

namespace LintEngine

theorem Lint.filter_sort (keep : Lint → Bool) (lints : List Lint) :
    (Lint.sort lints).filter keep = Lint.sort (lints.filter keep) := by
  have hsorted : ∀ lints : List Lint,
      (Lint.sort lints).Pairwise fun a b ↦ (Lint.compare a b).isLE = true :=
    List.pairwise_mergeSort isLE_trans_of_cmp isLE_total_of_cmp
  refine eq_of_sorted ((hsorted lints).filter keep) (hsorted (lints.filter keep)) fun x ↦ ?_
  rw [List.filter_comm, Lint.sort, filter_mergeSort, Lint.sort, filter_mergeSort, List.filter_comm]

def Document.isAt (path : Path) (document : Document) : Bool :=
  (Run.documentPath document).same path

/-- Two linters are the same, but for what the one named `linter` makes of the document at
`path`. -/
structure Descriptor.AgreesExcept (linter : String) (path : Path) (d d' : Descriptor) : Prop where
  name : d.name = d'.name
  schema : d.schema = d'.schema
  setUp : ∀ settings, Result.Related
    (fun scan scan' ↦ ∀ document : Document, (d.name = linter ∧ document.isAt path = true) ∨
      scan document = scan' document) (d.setUp settings) (d'.setUp settings)

def Lint.isOther (linter : String) (path : Path) (lint : Lint) : Bool :=
  !(lint.linter == some linter && lint.path.same path)

section Selecting

variable {linter : String} {path : Path} {ds ds' : List Descriptor} {c : Configuration}

open Result

theorem related_get? (h : List.Forall₂ (Descriptor.AgreesExcept linter path) ds ds')
    (name : String) :
    Option.Rel (Descriptor.AgreesExcept linter path) (Registry.get? ⟨ds⟩ name)
      (Registry.get? ⟨ds'⟩ name) := by
  unfold Registry.get?
  induction h with
  | nil => exact .none
  | @cons d d' _ _ hd _ ih =>
    rw [List.find?_cons, List.find?_cons, ← hd.name]
    by_cases hname : d.name = name
    · simpa [hname] using Option.Rel.some hd
    · simpa [hname] using ih

theorem related_lookUp (h : List.Forall₂ (Descriptor.AgreesExcept linter path) ds ds')
    (names : List String) :
    Related (List.Forall₂ (Descriptor.AgreesExcept linter path))
      (Selection.lookUp ⟨ds⟩ names) (Selection.lookUp ⟨ds'⟩ names) := by
  have hnames : List.Forall₂ Eq names names := List.forall₂_eq_eq_eq ▸ rfl
  refine Related.mapM hnames ?_
  rintro name _ rfl
  have hget := related_get? h name
  revert hget
  cases Registry.get? ⟨ds⟩ name <;> cases Registry.get? ⟨ds'⟩ name <;> intro hget <;> cases hget
  · exact .error _
  · next hd => exact .ok hd

theorem related_dropSeen (h : List.Forall₂ (Descriptor.AgreesExcept linter path) ds ds')
    (seen : List String) :
    List.Forall₂ (Descriptor.AgreesExcept linter path) (Selection.dropSeen seen ds)
      (Selection.dropSeen seen ds') := by
  induction h generalizing seen with
  | nil => exact .nil
  | cons hd _ ih =>
    rw [Selection.dropSeen, Selection.dropSeen, ← hd.name]
    split
    · exact ih seen
    · exact .cons hd (ih _)

/-- Two selected linters are the same, but for what the one named `linter` makes of the document at
`path`. -/
structure SelectedLinter.AgreesExcept (linter : String) (path : Path) (l l' : SelectedLinter) :
    Prop where
  descriptor : l.descriptor.AgreesExcept linter path l'.descriptor
  settings : l.settings = l'.settings
  included : l.included = l'.included
  excluded : l.excluded = l'.excluded

theorem related_configure {d d' : Descriptor} (h : d.AgreesExcept linter path d') :
    Related (SelectedLinter.AgreesExcept linter path) (SelectedLinter.configure c d)
      (SelectedLinter.configure c d') := by
  unfold SelectedLinter.configure Descriptor.validate
  rw [← h.name, ← h.schema]
  refine (Related.refl _).bind ?_
  rintro settings _ rfl
  refine (Related.refl _).bind ?_
  rintro included _ rfl
  refine (Related.refl _).bind ?_
  rintro excluded _ rfl
  exact .ok ⟨h, rfl, rfl, rfl⟩

theorem isEmpty_eq {α β : Type} {R : α → β → Prop} {l : List α} {l' : List β}
    (h : List.Forall₂ R l l') : l.isEmpty = l'.isEmpty := by
  cases h <;> rfl

theorem related_make (h : List.Forall₂ (Descriptor.AgreesExcept linter path) ds ds')
    (requestedNames excludedNames : List String) :
    Related (fun s s' : Selection ↦
        List.Forall₂ (SelectedLinter.AgreesExcept linter path) s.linters s'.linters)
      (Selection.make ⟨ds⟩ c requestedNames excludedNames)
      (Selection.make ⟨ds'⟩ c requestedNames excludedNames) := by
  unfold Selection.make
  refine (related_lookUp h requestedNames).bind fun requested requested' hrequested ↦ ?_
  refine (related_lookUp h excludedNames).bind fun excluded excluded' hexcluded ↦ ?_
  have hincluded : List.Forall₂ (Descriptor.AgreesExcept linter path)
      (if requested.isEmpty then ds.filter fun d ↦ Selection.isEnabled c d.name else requested)
      (if requested'.isEmpty then ds'.filter fun d ↦ Selection.isEnabled c d.name
        else requested') := by
    rw [← isEmpty_eq hrequested]
    split
    · exact List.rel_filter
        (fun _ _ hd ↦ iff_of_eq (congrArg (Selection.isEnabled c · = true) hd.name)) h
    · exact hrequested
  have hnames : excluded.map (·.name) = excluded'.map (·.name) :=
    map_eq_map hexcluded fun _ _ hd ↦ hd.name
  -- Whether and how a selection fails depends on names and on which lists are empty.
  dsimp only
  generalize (if requested.isEmpty then _ else _) = included at hincluded ⊢
  generalize (if requested'.isEmpty then _ else _) = included' at hincluded ⊢
  have hselected := related_dropSeen hincluded (excluded.map (·.name))
  unfold Selection.remaining Selection.noLinters
  rw [← hnames, ← isEmpty_eq hselected, ← isEmpty_eq hrequested, ← isEmpty_eq hincluded]
  split
  · exact .error _
  · exact (Related.mapM hselected fun _ _ ↦ related_configure).bind fun _ _ h ↦ .ok h

end Selecting

section Jobs

variable {linter : String} {path : Path} {selection selection' : Selection}
  {settings : JobSettings} {documents : List Document}

open Result

/-- Two jobs are the same, but for what the linter named `linter` makes of the document at
`path`. -/
structure ScheduledJob.AgreesExcept (linter : String) (path : Path) (s s' : ScheduledJob) :
    Prop where
  job : s.job = s'.job
  name : s.linter.name = s.job.linter
  name' : s'.linter.name = s'.job.linter
  settings : s.linter.settings = s'.linter.settings
  scan : ∀ document : Document, (s.job.linter = linter ∧ document.isAt path = true) ∨
    s.linter.scan document = s'.linter.scan document

theorem related_instantiate {l l' : SelectedLinter} (h : l.AgreesExcept linter path l')
    (file : Path) :
    Related (fun i i' ↦ ScheduledJob.AgreesExcept linter path ⟨⟨file, i.name⟩, i⟩
        ⟨⟨file, i'.name⟩, i'⟩)
      (l.descriptor.instantiate l.settings) (l'.descriptor.instantiate l'.settings) := by
  unfold Descriptor.instantiate
  rw [← h.settings]
  refine (h.descriptor.setUp l.settings).bind fun scan scan' hscan ↦ .ok ?_
  exact ⟨by simp only [h.descriptor.name], rfl, rfl, rfl, hscan⟩

theorem related_jobsFor
    (h : List.Forall₂ (SelectedLinter.AgreesExcept linter path) selection.linters
      selection'.linters) (workingDirectory : Path) (files : List Path) :
    Related (List.Forall₂ (ScheduledJob.AgreesExcept linter path))
      (Run.jobsFor selection workingDirectory files)
      (Run.jobsFor selection' workingDirectory files) := by
  induction files with
  | nil => exact .ok .nil
  | cons file rest ih =>
    have happlies : List.Forall₂ (SelectedLinter.AgreesExcept linter path)
        (selection.linters.filter (·.appliesTo workingDirectory file))
        (selection'.linters.filter (·.appliesTo workingDirectory file)) :=
      List.rel_filter (fun l l' hl ↦ by
        simp only [SelectedLinter.appliesTo, hl.included, hl.excluded]) h
    have hlinters := Related.mapM happlies fun l l' hl ↦ related_instantiate hl file
    refine hlinters.bind fun is is' his ↦ ih.bind fun more more' hmore ↦ .ok ?_
    refine List.rel_append ?_ hmore
    rw [List.forall₂_map_left_iff, List.forall₂_map_right_iff]
    exact his

theorem ScheduledJob.filter_lints_eq_nil {s : ScheduledJob} {document : Document}
    (hname : s.linter.name = s.job.linter)
    (hdocument : (Run.documentPath document).same s.job.path = true)
    (hlinter : s.job.linter = linter) (hpath : document.isAt path = true) :
    (s.lints settings document).filter (Lint.isOther linter path) = [] := by
  refine List.filter_eq_nil_iff.2 fun lint hlint ↦ ?_
  obtain ⟨hl, hp⟩ := signed hname hlint
  have hsame : lint.path.same path = true := by
    rcases hp with hp | hp
    · rw [hp]
      exact hpath
    · simp only [Document.isAt, Path.same, beq_iff_eq] at hdocument hpath ⊢
      rw [hp, ← hdocument, hpath]
  simp [Lint.isOther, hl, hlinter, hsame]

theorem ScheduledJob.AgreesExcept.filter_lints {s s' : ScheduledJob}
    (h : s.AgreesExcept linter path s') {document : Document}
    (hdocument : (Run.documentPath document).same s.job.path = true) :
    (s.lints settings document).filter (Lint.isOther linter path) =
      (s'.lints settings document).filter (Lint.isOther linter path) := by
  -- Of the job that may come to something else no lint is left, on either side.
  rcases h.scan document with ⟨hlinter, hpath⟩ | hscan
  · rw [filter_lints_eq_nil h.name hdocument hlinter hpath,
      filter_lints_eq_nil h.name' (h.job ▸ hdocument) (h.job ▸ hlinter) hpath]
  · have hname : s.linter.name = s'.linter.name := by rw [h.name, h.name', h.job]
    have hrun := Instance.run_congr hname h.settings hscan rfl
    simp only [ScheduledJob.lints, ScheduledJob.scan, hrun, hscan, h.job]

theorem related_perform (settings : JobSettings) (documents : List Document)
    {s s' : ScheduledJob} (h : s.AgreesExcept linter path s') :
    Option.Rel (fun r r' ↦ r.lints.filter (Lint.isOther linter path) =
        r'.lints.filter (Lint.isOther linter path))
      (Run.perform settings documents s) (Run.perform settings documents s') := by
  unfold Run.perform
  rw [← h.job]
  cases hd : documents.find? fun d ↦ (Run.documentPath d).same s.job.path with
  | none => exact .none
  | some d =>
    have hdocument := List.find?_some hd
    exact .some (h.filter_lints hdocument)

theorem filter_performed {jobs jobs' : List ScheduledJob}
    (h : List.Forall₂ (ScheduledJob.AgreesExcept linter path) jobs jobs') :
    ((jobs.filterMap (Run.perform settings documents)).flatMap (·.lints)).filter
        (Lint.isOther linter path) =
      ((jobs'.filterMap (Run.perform settings documents)).flatMap (·.lints)).filter
        (Lint.isOther linter path) := by
  have hresults := List.rel_filterMap (fun _ _ hs ↦ related_perform settings documents hs) h
  rw [List.filter_flatMap, List.filter_flatMap, List.flatMap_def, List.flatMap_def,
    map_eq_map hresults fun _ _ hr ↦ hr]

end Jobs

namespace Run

variable {workers : ℕ} {schedule schedule' : ℕ → Schedule} {options : RunOptions}

/-- What a run comes to, step by step. -/
def outcome (a : Application) (c : Configuration) (options : RunOptions) (world : World) :
    Except Error Report := do
  let selection ← Selection.make a.linters c options.includedLinters options.excludedLinters
  let limit ← timeLimit c
  let sources ← (SourceFiles.load a c options world).2
  let loaded := sources.parse a.parser c
  let inspected := loaded.documents.map documentPath
  let jobs ← jobsFor selection (SourceFiles.load a c options world).1.workingDirectory inspected
  let results := jobs.filterMap (perform (jobSettings c limit) loaded.documents)
  .ok (.make (results.flatMap (·.lints) ++ loaded.lints) inspected (.ofConfiguration c))

theorem start_result (a : Application) (c : Configuration) (world : World)
    (hs : options.concurrency.isSome → ∀ count, (schedule count).Completes workers count) :
    (start a c options world schedule).result = outcome a c options world := by
  unfold start outcome
  cases Selection.make a.linters c options.includedLinters options.excludedLinters with
  | error e => rfl
  | ok selection =>
    cases timeLimit c with
    | error e => rfl
    | ok limit =>
      rcases SourceFiles.load a c options world with ⟨tree, e | sources⟩
      · rfl
      · dsimp only [bind, Except.bind]
        unfold inspect
        cases hjobs : jobsFor selection tree.workingDirectory
            ((sources.parse a.parser c).documents.map documentPath) with
        | error e =>
          simp only [hjobs]
          rfl
        | ok jobs =>
          simp only [hjobs]
          cases hc : options.concurrency with
          | none => rfl
          | some concurrency =>
            simp only [Option.isSome_some, if_true, scheduledLints_eq (hs (by simp [hc]) _)]

theorem related_outcome {linter : String} {path : Path} {linters' : List Descriptor}
    {a : Application} (c : Configuration) (options : RunOptions) (world : World)
    (h : List.Forall₂ (Descriptor.AgreesExcept linter path) a.linters.linters linters') :
    Result.Related (fun report report' ↦ report.documents = report'.documents ∧
        report.severities = report'.severities ∧
        report.lints.filter (Lint.isOther linter path) =
          report'.lints.filter (Lint.isOther linter path))
      (outcome a c options world) (outcome { a with linters := ⟨linters'⟩ } c options world) := by
  have hload : SourceFiles.load { a with linters := ⟨linters'⟩ } c options world =
      SourceFiles.load a c options world := rfl
  unfold outcome
  rw [hload]
  refine (related_make h _ _).bind fun selection selection' hselection ↦ ?_
  refine (Result.Related.refl _).bind ?_
  rintro limit _ rfl
  refine (Result.Related.refl _).bind ?_
  rintro sources _ rfl
  refine (related_jobsFor hselection _ _).bind fun jobs jobs' hjobs ↦ .ok ⟨rfl, rfl, ?_⟩
  simp only [Report.make, Lint.filter_sort, List.filter_append, filter_performed hjobs]

/-- What a job adds to a report: all that its scan has found, if the scan returns, and one lint that
says that it failed otherwise. -/
def Adds (c : Configuration) (limit : Option Number.Duration) (p : Assignment)
    (lints : List Lint) : Prop :=
  ∃ scan, p.2.descriptor.setUp p.2.settings = .ok scan ∧
    (((scan p.1).Returns limit ∧ lints = (scan p.1).findings.map fun finding ↦
        { linter := some p.2.descriptor.name
          path := documentPath p.1
          range := finding.range
          message := finding.message
          severity := p.2.settings.severity
          exception := none }) ∨
      (¬ (scan p.1).Returns limit ∧ ∃ e, lints =
        [{ linter := some p.2.descriptor.name
           path := documentPath p.1
           range := .start
           message :=
             "Error occurred while linting " ++ (documentPath p.1).text ++ ": " ++ e.display
           severity := c.namedSeverity "linter_exception_severity"
           exception := some e }]))

theorem adds_of_comesTo {c : Configuration} {limit : Option Number.Duration} {p : Assignment}
    {r : JobResult} (h : p.ComesTo (jobSettings c limit) r) : Adds c limit p r.lints := by
  obtain ⟨i, hi, rfl⟩ := h
  obtain ⟨scan, hscan, hi⟩ := Result.bind_eq_ok.1 hi
  cases hi
  refine ⟨scan, hscan, ?_⟩
  by_cases hreturns : (scan p.1).Returns limit
  · exact .inl ⟨hreturns, ScheduledJob.lints_of_returns hreturns⟩
  · let s : ScheduledJob := ⟨p.job, ⟨p.2.descriptor.name, p.2.settings, scan, []⟩⟩
    have hlimit : ¬ (s.linter.scan p.1).Returns (jobSettings c limit).limit := hreturns
    obtain ⟨e, he⟩ := ScheduledJob.lints_of_not_returns hlimit
    refine .inr ⟨hreturns, e, ?_⟩
    rw [he]
    simp only [ScheduledJob.failureLint, s, Assignment.job, jobSettings, c.severity_error, toString]

/-- A report holds what each job adds to it and the lints about files that are no documents. If one
job comes to something else, nothing changes in the report but the lints of this job. -/
theorem failure_isolation (a : Application) (c : Configuration) (options : RunOptions)
    (world : World) (workers : ℕ) (schedule : ℕ → Schedule)
    (hs : options.concurrency.isSome → ∀ count, (schedule count).Completes workers count) :
    (∀ report, (start a c options world schedule).result = .ok report →
      ∃ (x : Setup a c options world) (additions : List (List Lint)),
        List.Forall₂ (Adds c x.limit) x.assignments additions ∧
        report.lints.Perm (additions.flatten ++ x.loaded.lints)) ∧
    ∀ (linter : String) (path : Path) (linters' : List Descriptor) (schedule' : ℕ → Schedule),
      List.Forall₂ (Descriptor.AgreesExcept linter path) a.linters.linters linters' →
      (options.concurrency.isSome → ∀ count, (schedule' count).Completes workers count) →
      Result.Related (fun report report' ↦ report.documents = report'.documents ∧
          report.severities = report'.severities ∧
          report.lints.filter (Lint.isOther linter path) =
            report'.lints.filter (Lint.isOther linter path))
        (start a c options world schedule).result
        (start { a with linters := ⟨linters'⟩ } c options world schedule').result := by
  refine ⟨fun report hreport ↦ ?_, fun linter path linters' schedule' hlinters hs' ↦ ?_⟩
  · obtain ⟨x, -, results, -, hresults, rfl⟩ := Setup.exists_of_result hs hreport
    refine ⟨x, results.map (·.lints), ?_, ?_⟩
    · rw [List.forall₂_map_right_iff]
      exact hresults.imp fun _ _ ↦ adds_of_comesTo
    · rw [← List.flatMap_def]
      exact x.perm_lints results
  · rw [start_result a c world hs, start_result _ c world hs']
    exact related_outcome c options world hlinters

end Run

/-- The application `twoLinters`, except that `B` breaks off on `a.txt` after it has found
something. -/
def breakingLinter : Application :=
  { twoLinters with
    linters := ⟨[⟨"A", "", .empty, fun _ ↦ .ok fun _ ↦ .found [⟨.start, "A"⟩]⟩,
      ⟨"B", "", .empty, fun _ ↦ .ok fun document ↦
        if document.isAt ⟨"a.txt"⟩ then ⟨[⟨.start, "B"⟩], .panicked none, 0⟩
        else .found [⟨.start, "B"⟩]⟩]⟩ }

def byTwoWorkers : RunOptions := { bothOnText with concurrency := some (.workers 2) }

def emptyWorld : World := ⟨⟨[], []⟩, fun tree _ _ ↦ (tree, .killed)⟩

theorem failure_isolation_panic :
    (∀ count, (backwards count).Completes 2 count) ∧
    (∃ report,
      (Run.start breakingLinter .empty byTwoWorkers emptyWorld backwards).result = .ok report ∧
      ∃ (x : Run.Setup breakingLinter .empty byTwoWorkers emptyWorld)
          (additions : List (List Lint)),
        List.Forall₂ (Run.Adds .empty x.limit) x.assignments additions ∧
        report.lints.Perm (additions.flatten ++ x.loaded.lints)) ∧
    List.Forall₂ (Descriptor.AgreesExcept "B" ⟨"a.txt"⟩) breakingLinter.linters.linters
      twoLinters.linters.linters ∧
    Result.Related (fun report report' ↦ report.documents = report'.documents ∧
        report.severities = report'.severities ∧
        report.lints.filter (Lint.isOther "B" ⟨"a.txt"⟩) =
          report'.lints.filter (Lint.isOther "B" ⟨"a.txt"⟩))
      (Run.start breakingLinter .empty byTwoWorkers emptyWorld backwards).result
      (Run.start twoLinters .empty byTwoWorkers emptyWorld backwards).result := by
  have hc : ∀ count, (backwards count).Completes 2 count := fun count ↦
    Schedule.completes_inTurn (by decide) (List.reverse_perm _)
  have hlinters : List.Forall₂ (Descriptor.AgreesExcept "B" ⟨"a.txt"⟩)
      breakingLinter.linters.linters twoLinters.linters.linters := by
    refine .cons ⟨rfl, rfl, fun _ ↦ .ok fun _ ↦ .inr rfl⟩ (.cons ⟨rfl, rfl, fun _ ↦ .ok ?_⟩ .nil)
    intro document
    by_cases hpath : document.isAt ⟨"a.txt"⟩ = true
    · exact .inl ⟨rfl, hpath⟩
    · exact .inr (if_neg hpath)
  obtain ⟨report, hreport⟩ :
      ∃ report, Run.outcome breakingLinter .empty byTwoWorkers emptyWorld = .ok report := ⟨_, rfl⟩
  rw [← Run.start_result breakingLinter .empty emptyWorld fun _ ↦ hc] at hreport
  have h := Run.failure_isolation breakingLinter .empty byTwoWorkers emptyWorld 2 backwards
    fun _ ↦ hc
  exact ⟨hc, ⟨report, hreport, h.1 report hreport⟩, hlinters,
    h.2 "B" ⟨"a.txt"⟩ twoLinters.linters.linters backwards hlinters fun _ ↦ hc⟩

end LintEngine
