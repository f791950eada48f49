import LintEngine.Proofs.Isolation
import LintEngine.Proofs.Selecting
import LintEngine.Proofs.Validation

namespace LintEngine

def Value.given? : Option Value → Option Value
  | some .null => none
  | value => value

theorem Value.given?_of_ne {v : Value} (h : v ≠ .null) : given? (some v) = some v := by
  cases v with
  | null => exact absurd rfl h
  | _ => rfl

theorem Value.ne_null_of_given? {o : Option Value} {v : Value} (h : given? o = some v) :
    v ≠ .null := by
  rintro rfl
  unfold given? at h
  split at h
  · cases h
  · next hne => exact hne h

theorem Value.isNull_of_ne {v : Value} (h : v ≠ .null) : v.isNull = false := by
  cases v with
  | null => exact absurd rfl h
  | _ => rfl

namespace Configuration

variable {c : Configuration} {linter : String}

/-- What a configuration says about the severity of a linter: the value in the table of linters, or
else the default severity, or else the name of errors. -/
def chosenSeverity (c : Configuration) (linter : String) : Value :=
  ((Value.given? (c.fields.at? ["linters", linter, "severity"])).or
    (Value.given? (c.fields.at? ["default_severity"]))).getD (.string "error")

/-- The severity among the options of a linter; a default severity is taken over even if it is
null. -/
theorem get?_severity_forLinter (c : Configuration) (linter : String) :
    (c.forLinter linter).get? "severity" =
      some ((Value.given? (c.fields.at? ["linters", linter, "severity"])).getD
        ((c.fields.at? ["default_severity"]).getD (.string "error"))) := by
  have hdefault : c.fields.at? ["default_severity"] = c.get? "default_severity" :=
    Fields.at?_singleton _ _
  rw [Selection.at?_linters, hdefault, forLinter]
  cases hown : Fields.get? (c.linterFields linter) "severity" with
  | none =>
    rw [Option.all_none, if_pos rfl, Fields.get?_insert, if_pos rfl]
    rfl
  | some v =>
    by_cases hnull : v = .null
    · have hisNull : Value.null.isNull = true := rfl
      rw [hnull, Option.all_some, if_pos hisNull, Fields.get?_insert, if_pos rfl]
      rfl
    · rw [Option.all_some, Value.isNull_of_ne hnull, if_neg Bool.false_ne_true, hown,
        Value.given?_of_ne hnull]
      rfl

theorem checkSeverity_eq_ok {severity : Severity} :
    Schema.checkSeverity linter ((c.forLinter linter).get? "severity") = .ok severity ↔
      ∃ name, c.chosenSeverity linter = .string name ∧ severity = .ofName name := by
  have hstring (v : Value) (hv : v ≠ .null) :
      Schema.checkSeverity linter (some v) = .ok severity ↔
        ∃ name, v = .string name ∧ severity = .ofName name := by
    cases v with
    | null => exact absurd rfl hv
    | string name => simp [Schema.checkSeverity, eq_comm]
    | _ => simp [Schema.checkSeverity]
  -- A default severity of null is checked as such, and passes as the severity of errors.
  have hdefault (o : Option Value) :
      Schema.checkSeverity linter (some (o.getD (.string "error"))) = .ok severity ↔
        ∃ name, (Value.given? o).getD (.string "error") = .string name ∧
          severity = .ofName name := by
    cases o with
    | none => exact hstring (.string "error") (by simp)
    | some v =>
      by_cases hnull : v = .null
      · subst hnull
        have herror : Schema.checkSeverity linter (some .null) =
            Schema.checkSeverity linter (some (.string "error")) := rfl
        rw [Option.getD_some, herror]
        exact hstring (.string "error") (by simp)
      · rw [Value.given?_of_ne hnull]
        exact hstring v hnull
  rw [get?_severity_forLinter, chosenSeverity]
  cases hown : Value.given? (c.fields.at? ["linters", linter, "severity"]) with
  | none => exact hdefault _
  | some v => exact hstring v (Value.ne_null_of_given? hown)

end Configuration

namespace Selection

variable {r : Registry} {c : Configuration} {d : Descriptor} {l : SelectedLinter}

theorem severity_of_configure (h : SelectedLinter.configure c d = .ok l) :
    ∃ name, c.chosenSeverity d.name = .string name ∧ l.settings.severity = .ofName name := by
  obtain ⟨-, hvalid, -, -⟩ := configure_eq_ok.1 h
  obtain ⟨-, -, -, hseverity, -⟩ := Schema.validate_eq_ok.1 hvalid
  exact Configuration.checkSeverity_eq_ok.1 hseverity

theorem configure_of_severity (h : ∀ name, c.chosenSeverity d.name ≠ .string name) :
    ∃ e, SelectedLinter.configure c d = .error e ∧ e.category = .linterConfiguration := by
  cases hl : SelectedLinter.configure c d with
  | ok l =>
    obtain ⟨name, hname, -⟩ := severity_of_configure hl
    exact absurd hname (h name)
  | error e => exact ⟨e, rfl, configure_failsOnly c d e hl⟩

theorem known_of_lookUp {names : List String} {ds : List Descriptor}
    (h : lookUp r names = .ok ds) : ∀ n ∈ names, n ∈ r.names := by
  intro n hn
  obtain ⟨d, hd⟩ := Result.exists_mapM_iff.1 ⟨ds, h⟩ n hn
  by_contra hunknown
  rw [Registry.get?_eq_none_iff.2 hunknown] at hd
  cases hd

theorem mem_make {requested excluded : List String} {selection : Selection}
    (h : make r c requested excluded = .ok selection) (hl : l ∈ selection.linters) :
    l.descriptor.name ∈ chosen r c requested excluded ∧
      r.get? l.descriptor.name = some l.descriptor ∧
      SelectedLinter.configure c l.descriptor = .ok l := by
  obtain ⟨ds, hds, h'⟩ := Result.bind_eq_ok.1 h
  obtain ⟨es, hes, -⟩ := Result.bind_eq_ok.1 h'
  obtain ⟨selected, hnames, hselected, hmake⟩ :=
    make_of_known (c := c) (known_of_lookUp hds) (known_of_lookUp hes)
  rw [h] at hmake
  split at hmake
  · cases hmake
  · obtain ⟨linters, hlinters, hmake⟩ := Result.bind_eq_ok.1 hmake.symm
    cases hmake
    obtain ⟨d, hd, hconfigure⟩ := exists_of_mem_right (Result.forall₂_of_mapM hlinters) hl
    obtain rfl := (configure_eq_ok.1 hconfigure).1
    exact ⟨hnames ▸ List.mem_map_of_mem hd, hselected _ hd, hconfigure⟩

theorem make_of_severity {requested excluded : List String} {name : String}
    (hrequested : ∀ n ∈ requested, n ∈ r.names) (hexcluded : ∀ n ∈ excluded, n ∈ r.names)
    (hname : name ∈ chosen r c requested excluded)
    (h : ∀ text, c.chosenSeverity name ≠ .string text) :
    ∃ e, make r c requested excluded = .error e ∧ e.category = .linterConfiguration := by
  obtain ⟨selected, hnames, -, hmake⟩ := make_of_known (c := c) hrequested hexcluded
  rw [if_neg (List.ne_nil_of_mem hname)] at hmake
  rw [← hnames] at hname
  obtain ⟨d, hd, rfl⟩ := List.mem_map.1 hname
  cases hlinters : selected.mapM (SelectedLinter.configure c) with
  | ok linters =>
    obtain ⟨l, hl⟩ := Result.exists_mapM_iff.1 ⟨linters, hlinters⟩ d hd
    obtain ⟨e, he, -⟩ := configure_of_severity h
    rw [hl] at he
    cases he
  | error e =>
    rw [hlinters] at hmake
    exact ⟨e, hmake, Result.FailsOnly.mapM (fun d _ ↦ configure_failsOnly c d) e hlinters⟩

end Selection

theorem SourceFiles.exception_parse {s : SourceFiles} {parser : Parser} {c : Configuration}
    {lint : Lint} (h : lint ∈ (s.parse parser c).lints) : lint.exception ≠ none := by
  have hfiles : ∀ files : List FileToLint,
      ∀ lint ∈ (parseFiles parser c (failureSeverity c) files).lints, lint.exception ≠ none := by
    intro files
    induction files with
    | nil => simp [parseFiles]
    | cons file rest ih =>
      rw [parseFiles]
      split
      · exact ih
      · exact List.forall_mem_cons.2 ⟨by simp [failureLint], ih⟩
  rw [parse_lints] at h
  rcases List.mem_append.1 h with h | h
  · obtain ⟨entry, -, rfl⟩ := List.mem_map.1 h
    simp [failureLint]
  · exact hfiles s.files lint h

theorem ScheduledJob.exists_finding {s : ScheduledJob} {settings : JobSettings}
    {document : Document} {lint : Lint} (h : lint ∈ s.lints settings document)
    (he : lint.exception = none) :
    ∃ finding ∈ (s.linter.scan document).findings, lint = s.linter.lint document finding := by
  by_cases hreturns : (s.linter.scan document).Returns settings.limit
  · rw [lints_of_returns hreturns] at h
    obtain ⟨finding, hfinding, rfl⟩ := List.mem_map.1 h
    exact ⟨finding, hfinding, rfl⟩
  · obtain ⟨e, hlints⟩ := lints_of_not_returns hreturns
    rw [hlints, List.mem_singleton] at h
    subst h
    cases he

namespace Run

variable {a : Application} {c : Configuration} {options : RunOptions} {world : World}

/-- A linter of a run finds in one of its documents what a lint says. -/
structure Setup.Finds (x : Setup a c options world) (l : SelectedLinter) (document : Document)
    (lint : Lint) : Prop where
  selected : l ∈ x.selection.linters
  registered : a.linters.get? l.descriptor.name = some l.descriptor
  inspected : document ∈ x.loaded.documents
  found : ∃ i, l.descriptor.instantiate l.settings = .ok i ∧
    ∃ finding ∈ (i.scan document).findings,
      lint.range = finding.range ∧ lint.message = finding.message

theorem Setup.mem_assignments {x : Setup a c options world} {p : Assignment}
    (h : p ∈ x.assignments) : p.1 ∈ x.loaded.documents ∧ p.2 ∈ x.selection.linters := by
  obtain ⟨document, hdocument, h⟩ := List.mem_flatMap.1 h
  obtain ⟨l, hl, rfl⟩ := List.mem_map.1 h
  exact ⟨hdocument, (List.mem_filter.1 hl).1⟩

theorem Setup.finds_of_comesTo {x : Setup a c options world} {p : Assignment} {r : JobResult}
    (hp : p ∈ x.assignments) (hr : p.ComesTo x.settings r) {lint : Lint} (hlint : lint ∈ r.lints)
    (he : lint.exception = none) :
    x.Finds p.2 p.1 lint ∧ ∃ name, c.chosenSeverity p.2.descriptor.name = .string name ∧
      lint.severity = .ofName name := by
  obtain ⟨hdocument, hl⟩ := mem_assignments hp
  obtain ⟨i, hi, rfl⟩ := hr
  obtain ⟨finding, hfinding, rfl⟩ := ScheduledJob.exists_finding hlint he
  obtain ⟨-, hget, hconfigure⟩ := Selection.mem_make x.selection_eq hl
  refine ⟨⟨hl, hget, hdocument, i, hi, finding, hfinding, rfl, rfl⟩, ?_⟩
  obtain ⟨scan, -, hinstance⟩ := Result.bind_eq_ok.1 hi
  cases hinstance
  exact Selection.severity_of_configure hconfigure

/-- Every lint of a report that has no exception comes from a linter of the run and a document that
was inspected, goes by their name and path, and has the severity that is chosen for the linter. A
linter for which something else than a string is chosen cannot be selected. -/
theorem lints_attributed (a : Application) (c : Configuration) (options : RunOptions)
    (world : World) (workers : ℕ) (schedule : ℕ → Schedule)
    (hs : options.concurrency.isSome → ∀ count, (schedule count).Completes workers count) :
    (∀ report, (start a c options world schedule).result = .ok report →
      ∃ x : Setup a c options world, report.documents = x.loaded.documents.map documentPath ∧
        ∀ lint ∈ report.lints, lint.exception = none → ∃ l document name,
          x.Finds l document lint ∧
          l.descriptor.name ∈ Selection.chosen a.linters c options.includedLinters
            options.excludedLinters ∧
          lint.linter = some l.descriptor.name ∧ lint.path = documentPath document ∧
          c.chosenSeverity l.descriptor.name = .string name ∧ lint.severity = .ofName name) ∧
    (∀ d, (∀ text, c.chosenSeverity d.name ≠ .string text) →
      ∃ e, SelectedLinter.configure c d = .error e ∧ e.category = .linterConfiguration) ∧
    ∀ name ∈ Selection.chosen a.linters c options.includedLinters options.excludedLinters,
      (∀ n ∈ options.includedLinters ++ options.excludedLinters, n ∈ a.linters.names) →
      (∀ text, c.chosenSeverity name ≠ .string text) →
      ∃ e, (start a c options world schedule).result = .error e ∧
        e.category = .linterConfiguration := by
  refine ⟨fun report hreport ↦ ?_, fun d hd ↦ Selection.configure_of_severity hd,
    fun name hname hknown htext ↦ ?_⟩
  · obtain ⟨x, jobs, results, -, hresults, rfl⟩ := Setup.exists_of_result hs hreport
    refine ⟨x, rfl, fun lint hlint he ↦ ?_⟩
    rcases List.mem_append.1 ((x.perm_lints results).subset hlint) with hlint | hlint
    · obtain ⟨r, hr, hlint⟩ := List.mem_flatMap.1 hlint
      obtain ⟨p, hp, hcomes⟩ := exists_of_mem_right hresults hr
      obtain ⟨hlinter, hpath⟩ := hcomes.signed hlint
      obtain ⟨hfinds, name, hchosen, hseverity⟩ := Setup.finds_of_comesTo hp hcomes hlint he
      exact ⟨p.2, p.1, name, hfinds, (Selection.mem_make x.selection_eq hfinds.selected).1, hlinter,
        hpath, hchosen, hseverity⟩
    · exact absurd he (SourceFiles.exception_parse hlint)
  · rw [List.forall_mem_append] at hknown
    obtain ⟨e, he, hcategory⟩ := Selection.make_of_severity hknown.1 hknown.2 hname htext
    refine ⟨e, ?_, hcategory⟩
    unfold start
    rw [he]
    rfl

end Run

/-- A configuration with a severity for `A`, and one for all others; `B` has no options, as
something else than a map stands in their place. -/
def severitiesGiven : Configuration where
  fields := [("default_severity", .string "info"),
    ("linters", .map [("A", .map [("severity", .string "style")]), ("B", .bool true)])]
  path := none

theorem lints_attributed_severitiesGiven :
    (∀ count, (backwards count).Completes 2 count) ∧
    (∃ report,
      (Run.start twoLinters severitiesGiven byTwoWorkers emptyWorld backwards).result =
        .ok report ∧
      (report.lints.map fun lint ↦ (lint.linter, lint.severity)).Perm
        [(some "A", .other "style"), (some "B", .info)] ∧
      ∃ x : Run.Setup twoLinters severitiesGiven byTwoWorkers emptyWorld,
        ∀ lint ∈ report.lints, lint.exception = none → ∃ l document name,
          x.Finds l document lint ∧
          severitiesGiven.chosenSeverity l.descriptor.name = .string name ∧
          lint.severity = .ofName name) ∧
    (∀ text, (severitiesGiven.set "default_severity" (.int 1)).chosenSeverity "B" ≠
      .string text) ∧
    ∃ e, (Run.start twoLinters (severitiesGiven.set "default_severity" (.int 1)) byTwoWorkers
        emptyWorld backwards).result = .error e ∧ e.category = .linterConfiguration := by
  have hc : ∀ count, (backwards count).Completes 2 count := fun count ↦
    Schedule.completes_inTurn (by decide) (List.reverse_perm _)
  obtain ⟨report, hreport, hlints⟩ : ∃ report,
      Run.outcome twoLinters severitiesGiven byTwoWorkers emptyWorld = .ok report ∧
        (report.lints.map fun lint ↦ (lint.linter, lint.severity)).Perm
          [(some "A", .other "style"), (some "B", .info)] :=
    ⟨_, rfl, (List.mergeSort_perm _ _).map _⟩
  rw [← Run.start_result twoLinters severitiesGiven emptyWorld fun _ ↦ hc] at hreport
  obtain ⟨x, -, hx⟩ := (Run.lints_attributed twoLinters severitiesGiven byTwoWorkers emptyWorld 2
    backwards fun _ ↦ hc).1 report hreport
  have hnumber (text : String) :
      (severitiesGiven.set "default_severity" (.int 1)).chosenSeverity "B" ≠ .string text := by
    intro h
    cases h
  refine ⟨hc, ⟨report, hreport, hlints, x, fun lint hlint he ↦ ?_⟩, hnumber,
    (Run.lints_attributed twoLinters (severitiesGiven.set "default_severity" (.int 1)) byTwoWorkers
      emptyWorld 2 backwards fun _ ↦ hc).2.2 "B" (by decide) (by decide) hnumber⟩
  obtain ⟨l, document, name, hfinds, -, -, -, hchosen, hseverity⟩ := hx lint hlint he
  exact ⟨l, document, name, hfinds, hchosen, hseverity⟩

end LintEngine
