import LintEngine.Proofs.Loading
import LintEngine.Proofs.Workers

namespace LintEngine

section Lints

variable {i : Instance} {document : Document} {s : ScheduledJob} {settings : JobSettings}

/-- The scan gets to its end, and in time if there is a limit. -/
def Scan.Returns (limit : Option Number.Duration) (scan : Scan) : Prop :=
  scan.ending = .done ∧ ∀ d ∈ limit, ScheduledJob.exceeds d scan = false

theorem Instance.foldl_report (i : Instance) (document : Document) (findings : List Finding) :
    findings.foldl (fun i finding ↦ i.report document finding) i =
      { i with pending := i.pending ++ findings.map (i.lint document) } := by
  induction findings generalizing i with
  | nil => simp
  | cons finding rest ih =>
    rw [List.foldl_cons, ih]
    simp [Instance.report, Instance.lint]

theorem Instance.run_of_done (h : (i.scan document).ending = .done) :
    (i.run document).1 = .ok ((i.scan document).findings.map (i.lint document)) := by
  simp only [Instance.run, h, Instance.foldl_report, List.nil_append]
  rfl

theorem Instance.run_of_not_done (h : (i.scan document).ending ≠ .done) :
    ∃ e, (i.run document).1 = .error e := by
  cases hending : (i.scan document).ending with
  | done => exact absurd hending h
  | failed message => exact ⟨.failed message, by simp only [Instance.run, hending]⟩
  | panicked message =>
    exact ⟨.panicked (message.getD unknownPanic), by simp only [Instance.run, hending]⟩
  | lost => exact ⟨.disconnected, by simp only [Instance.run, hending]⟩

theorem Instance.run_congr {i i' : Instance} {document document' : Document}
    (hname : i.name = i'.name) (hsettings : i.settings = i'.settings)
    (hscan : i.scan document = i'.scan document') (hpath : document.path = document'.path) :
    (i.run document).1 = (i'.run document').1 := by
  have hlint : Instance.lint { i with pending := [] } document =
      Instance.lint { i' with pending := [] } document' := by
    funext finding
    simp only [Instance.lint, hname, hsettings, hpath]
  simp only [Instance.run, Instance.foldl_report, hscan, hlint]
  cases (i'.scan document').ending <;> rfl

theorem ScheduledJob.lints_of_returns (h : (s.linter.scan document).Returns settings.limit) :
    s.lints settings document =
      (s.linter.scan document).findings.map (s.linter.lint document) := by
  obtain ⟨hdone, htime⟩ := h
  have hscan : s.scan settings document = (s.linter.run document).1 := by
    unfold ScheduledJob.scan
    split
    · rfl
    · next limit hlimit => rw [if_neg (by simp [htime limit hlimit])]
  rw [ScheduledJob.lints, hscan, Instance.run_of_done hdone]

theorem ScheduledJob.lints_of_not_returns
    (h : ¬ (s.linter.scan document).Returns settings.limit) :
    ∃ e, s.lints settings document = [failureLint s.job settings e] := by
  -- A scan that is done too late has failed as well, so the limit is looked at before the ending.
  have hscan : ∃ e, s.scan settings document = .error e := by
    unfold ScheduledJob.scan
    split
    · next hlimit => exact Instance.run_of_not_done fun hdone ↦ h ⟨hdone, by simp [hlimit]⟩
    · next limit hlimit =>
      split
      · exact ⟨.timedOut limit, rfl⟩
      · next htime =>
        exact Instance.run_of_not_done fun hdone ↦ h ⟨hdone, by simpa [hlimit] using htime⟩
  obtain ⟨e, he⟩ := hscan
  exact ⟨e, by rw [ScheduledJob.lints, he]⟩

theorem ScheduledJob.signed (hname : s.linter.name = s.job.linter) {lint : Lint}
    (hlint : lint ∈ s.lints settings document) : lint.linter = some s.job.linter ∧
      (lint.path = Run.documentPath document ∨ lint.path = s.job.path) := by
  by_cases hreturns : (s.linter.scan document).Returns settings.limit
  · rw [lints_of_returns hreturns] at hlint
    obtain ⟨finding, -, rfl⟩ := List.mem_map.1 hlint
    exact ⟨congrArg some hname, .inl rfl⟩
  · obtain ⟨e, he⟩ := lints_of_not_returns hreturns
    rw [he, List.mem_singleton] at hlint
    subst hlint
    exact ⟨rfl, .inr rfl⟩

end Lints

abbrev Assignment := Document × SelectedLinter

namespace Assignment

def job (p : Assignment) : Job := ⟨Run.documentPath p.1, p.2.descriptor.name⟩

/-- The linter of an assignment is set up and runs on its document with this result. -/
def ComesTo (settings : JobSettings) (p : Assignment) (r : JobResult) : Prop :=
  ∃ i, p.2.descriptor.instantiate p.2.settings = .ok i ∧
    r = ⟨p.job, ScheduledJob.lints ⟨p.job, i⟩ settings p.1⟩

variable {settings : JobSettings} {p : Assignment} {r : JobResult}

theorem name_of_instantiate {d : Descriptor} {settings : Settings} {i : Instance}
    (h : d.instantiate settings = .ok i) : i.name = d.name := by
  obtain ⟨scan, -, h⟩ := Result.bind_eq_ok.1 h
  cases h
  rfl

theorem ComesTo.signed (h : p.ComesTo settings r) {lint : Lint} (hlint : lint ∈ r.lints) :
    lint.linter = some p.2.descriptor.name ∧ lint.path = Run.documentPath p.1 := by
  obtain ⟨i, hi, rfl⟩ := h
  obtain ⟨hlinter, hpath⟩ :=
    ScheduledJob.signed (s := ⟨p.job, i⟩) (name_of_instantiate hi) hlint
  exact ⟨hlinter, hpath.elim id id⟩

end Assignment

namespace Run

section Jobs

variable {selection : Selection} {workingDirectory : Path} {documents : List Document}
  {settings : JobSettings} {jobs : List ScheduledJob}

def assignments (selection : Selection) (workingDirectory : Path) (documents : List Document) :
    List Assignment :=
  documents.flatMap fun document ↦
    (selection.linters.filter (·.appliesTo workingDirectory (documentPath document))).map
      (document, ·)

theorem mem_documents {p : Assignment}
    (h : p ∈ assignments selection workingDirectory documents) : p.1 ∈ documents := by
  obtain ⟨document, hdocument, h⟩ := List.mem_flatMap.1 h
  obtain ⟨linter, -, rfl⟩ := List.mem_map.1 h
  exact hdocument

theorem forall₂_jobsFor
    (h : jobsFor selection workingDirectory (documents.map documentPath) = .ok jobs) :
    List.Forall₂ (fun (p : Assignment) (s : ScheduledJob) ↦
        p.2.descriptor.instantiate p.2.settings = .ok s.linter ∧ s.job = p.job)
      (assignments selection workingDirectory documents) jobs := by
  induction documents generalizing jobs with
  | nil =>
    cases h
    exact .nil
  | cons document rest ih =>
    rw [List.map_cons, jobsFor] at h
    obtain ⟨linters, hlinters, h⟩ := Result.bind_eq_ok.1 h
    obtain ⟨more, hmore, h⟩ := Result.bind_eq_ok.1 h
    cases h
    refine List.rel_append ?_ (ih hmore)
    rw [List.forall₂_map_left_iff, List.forall₂_map_right_iff]
    refine (Result.forall₂_of_mapM hlinters).imp fun l i hi ↦ ⟨hi, ?_⟩
    rw [Assignment.job, Assignment.name_of_instantiate hi]

theorem eq_of_same_path (hdistinct : Path.Distinct (documents.map documentPath))
    {d d' : Document} (hd : d ∈ documents) (hd' : d' ∈ documents)
    (hsame : (documentPath d).same (documentPath d') = true) : d = d' := by
  have hpairwise : documents.Pairwise fun d d' ↦ (documentPath d).same (documentPath d') = false :=
    List.pairwise_map.1 hdistinct
  have _ : Std.Symm fun d d' ↦ (documentPath d).same (documentPath d') = false :=
    ⟨fun d d' h ↦ (Path.same_comm _ _).trans h⟩
  by_contra hne
  rw [hpairwise.forall hd hd' hne] at hsame
  cases hsame

theorem perform_eq (hdistinct : Path.Distinct (documents.map documentPath)) {document : Document}
    (hdocument : document ∈ documents) {s : ScheduledJob}
    (hs : s.job.path = documentPath document) :
    perform settings documents s = some ⟨s.job, s.lints settings document⟩ := by
  -- The first document with that path is the only one.
  have hfind : documents.find? (fun d ↦ (documentPath d).same s.job.path) = some document := by
    cases hfound : documents.find? fun d ↦ (documentPath d).same s.job.path with
    | none =>
      have hnone := List.find?_eq_none.1 hfound document hdocument
      rw [hs, Path.same_self] at hnone
      exact absurd rfl hnone
    | some d =>
      have hsame := List.find?_some hfound
      rw [hs] at hsame
      rw [eq_of_same_path hdistinct (List.mem_of_find?_eq_some hfound) hdocument hsame]
  rw [perform, hfind, Option.map_some]

theorem forall₂_perform (hdistinct : Path.Distinct (documents.map documentPath))
    (h : jobsFor selection workingDirectory (documents.map documentPath) = .ok jobs) :
    List.Forall₂ (Assignment.ComesTo settings) (assignments selection workingDirectory documents)
      (jobs.filterMap (perform settings documents)) := by
  have hmem : ∀ p ∈ assignments selection workingDirectory documents, p.1 ∈ documents :=
    fun p ↦ mem_documents
  have hjobs := forall₂_jobsFor h
  clear h
  -- Of the assignments only this matters for the induction: their documents are among those given.
  generalize assignments selection workingDirectory documents = ps at hmem hjobs
  induction hjobs with
  | nil => exact .nil
  | @cons p s ps rest hs _ ih =>
    rw [List.forall_mem_cons] at hmem
    have hperform : perform settings documents s = some ⟨s.job, s.lints settings p.1⟩ :=
      perform_eq hdistinct hmem.1 (by rw [hs.2]; rfl)
    rw [List.filterMap_cons_some hperform]
    refine .cons ⟨s.linter, hs.1, ?_⟩ (ih hmem.2)
    rw [← hs.2]

end Jobs

/-- What a run has when its jobs are to be made: a selection of linters, a limit of time and
files. -/
structure Setup (a : Application) (c : Configuration) (options : RunOptions) (world : World) where
  selection : Selection
  limit : Option Number.Duration
  sources : SourceFiles
  selection_eq :
    Selection.make a.linters c options.includedLinters options.excludedLinters = .ok selection
  limit_eq : timeLimit c = .ok limit
  sources_eq : (SourceFiles.load a c options world).2 = .ok sources

namespace Setup

variable {a : Application} {c : Configuration} {options : RunOptions} {world : World}
  {workers : ℕ} {schedule : ℕ → Schedule}

def loaded (x : Setup a c options world) : LoadedDocuments := x.sources.parse a.parser c

def settings (x : Setup a c options world) : JobSettings := jobSettings c x.limit

def tree (_ : Setup a c options world) : FileTree := (SourceFiles.load a c options world).1

def inspected (x : Setup a c options world) : List Path := x.loaded.documents.map documentPath

def assignments (x : Setup a c options world) : List Assignment :=
  Run.assignments x.selection x.tree.workingDirectory x.loaded.documents

theorem start_cases (a : Application) (c : Configuration) (options : RunOptions) (world : World)
    (schedule : ℕ → Schedule) :
    (∃ e, (start a c options world schedule).result = .error e ∧
      (start a c options world schedule).events = []) ∨
    ∃ x : Setup a c options world, start a c options world schedule =
      inspect x.selection c x.settings options.concurrency schedule x.tree x.sources.paths
        x.loaded := by
  unfold start
  split
  · next e _ => exact .inl ⟨e, rfl, rfl⟩
  · next selection hselection =>
    split
    · next e _ => exact .inl ⟨e, rfl, rfl⟩
    · next limit hlimit =>
      split
      · next tree e _ => exact .inl ⟨e, rfl, rfl⟩
      · next tree sources hload =>
        refine .inr ⟨⟨selection, limit, sources, hselection, hlimit, by rw [hload]⟩, ?_⟩
        simp only [Setup.tree, hload]
        rfl

theorem gathers (x : Setup a c options world) :
    ∃ paths, SourceFiles.located a c options world.tree = .ok paths ∧
      SourceFiles.Gathers c options world paths x.sources :=
  SourceFiles.gathers_load x.sources_eq

theorem distinct_inspected (x : Setup a c options world) : Path.Distinct x.inspected := by
  obtain ⟨paths, hpaths, hgathers⟩ := x.gathers
  exact (SourceFiles.ascending_located hpaths).distinct.sublist (hgathers.sublist_parse a.parser)

def report (x : Setup a c options world) (results : List JobResult) : Report :=
  .make (results.flatMap (·.lints) ++ x.loaded.lints) x.inspected (.ofConfiguration c)

theorem perm_lints (x : Setup a c options world) (results : List JobResult) :
    (x.report results).lints.Perm (results.flatMap (·.lints) ++ x.loaded.lints) :=
  List.mergeSort_perm _ _

def jobEvents (concurrency : Option Concurrency) (schedule : ℕ → Schedule)
    (results : List JobResult) : List Event :=
  if concurrency.isSome then scheduledEvents results (schedule results.length)
  else sequentialEvents results

/-- A run that is set up fails when a linter cannot be set up for a file, and otherwise tells of its
jobs and reports what they come to, in whatever order workers take them. -/
theorem inspect_eq (x : Setup a c options world)
    (hs : options.concurrency.isSome → ∀ count, (schedule count).Completes workers count) :
    (∃ e, jobsFor x.selection x.tree.workingDirectory x.inspected = .error e ∧
      inspect x.selection c x.settings options.concurrency schedule x.tree x.sources.paths
        x.loaded = failed x.tree [.started x.sources.paths] e) ∨
    ∃ jobs results, jobsFor x.selection x.tree.workingDirectory x.inspected = .ok jobs ∧
      List.Forall₂ (Assignment.ComesTo x.settings) x.assignments results ∧
      inspect x.selection c x.settings options.concurrency schedule x.tree x.sources.paths
          x.loaded =
        ⟨.started x.sources.paths :: jobEvents options.concurrency schedule results ++
            [.finished (x.report results)],
          .ok (x.report results), x.tree⟩ := by
  unfold inspect
  cases hjobs : jobsFor x.selection x.tree.workingDirectory
      (x.loaded.documents.map documentPath) with
  | error e => exact .inl ⟨e, hjobs, by simp only [hjobs]⟩
  | ok jobs =>
    have hresults : List.Forall₂ (Assignment.ComesTo x.settings) x.assignments
        (jobs.filterMap (perform x.settings x.loaded.documents)) :=
      forall₂_perform x.distinct_inspected hjobs
    refine .inr ⟨jobs, _, hjobs, hresults, ?_⟩
    simp only [hjobs]
    cases hc : options.concurrency with
    | none => rfl
    | some concurrency =>
      have hlints := scheduledLints_eq (hs (by simp [hc])
        (jobs.filterMap (perform x.settings x.loaded.documents)).length)
      simp only [Option.isSome_some, if_true, hlints]
      rfl

theorem inspect_cases (x : Setup a c options world)
    (hs : options.concurrency.isSome → ∀ count, (schedule count).Completes workers count) :
    (∃ e, jobsFor x.selection x.tree.workingDirectory x.inspected = .error e ∧
      inspect x.selection c x.settings options.concurrency schedule x.tree x.sources.paths
        x.loaded = failed x.tree [.started x.sources.paths] e) ∨
    ∃ jobs results, jobsFor x.selection x.tree.workingDirectory x.inspected = .ok jobs ∧
      List.Forall₂ (Assignment.ComesTo x.settings) x.assignments results ∧
      ∃ events, inspect x.selection c x.settings options.concurrency schedule x.tree
          x.sources.paths x.loaded =
        ⟨.started x.sources.paths :: events ++ [.finished (x.report results)],
          .ok (x.report results), x.tree⟩ ∧
        (options.concurrency = none → events = sequentialEvents results) := by
  refine (x.inspect_eq hs).imp_right ?_
  rintro ⟨jobs, results, hjobs, hresults, hrun⟩
  refine ⟨jobs, results, hjobs, hresults, _, hrun, fun hnone ↦ ?_⟩
  rw [hnone]
  rfl

theorem exists_of_result {report : Report}
    (hs : options.concurrency.isSome → ∀ count, (schedule count).Completes workers count)
    (h : (start a c options world schedule).result = .ok report) :
    ∃ (x : Setup a c options world) (jobs : List ScheduledJob) (results : List JobResult),
      jobsFor x.selection x.tree.workingDirectory x.inspected = .ok jobs ∧
      List.Forall₂ (Assignment.ComesTo x.settings) x.assignments results ∧
      report = x.report results := by
  rcases start_cases a c options world schedule with ⟨e, he, -⟩ | ⟨x, hx⟩
  · rw [he] at h
    cases h
  · rw [hx] at h
    rcases x.inspect_cases hs with ⟨e, -, he⟩ | ⟨jobs, results, hjobs, hresults, events, hrun, -⟩
    · rw [he] at h
      cases h
    · rw [hrun] at h
      cases h
      exact ⟨x, jobs, results, hjobs, hresults, rfl⟩

end Setup

end Run

end LintEngine
