import LintEngine.CommandLine.Basic
import LintEngine.Proofs.Finishing
import LintEngine.Proofs.Isolation

namespace LintEngine

def Formatter.texts (f : Formatter) (context : FormatterContext) : Bool → List Event → List String
  | _, [] => []
  | jobFinished, event :: rest =>
    f.write context jobFinished event ::
      f.texts context (jobFinished || event.finish?.isSome) rest

namespace Emission

def printing (outputs : List Output) : List Formatter :=
  (outputs.filter (·.place.isNone)).map (·.formatter)

variable (context : FormatterContext) (jobFinished : Bool) (event : Event)

theorem printed_writeAll (tree : FileTree) (printed : String) (outputs : List Output) :
    (writeAll context jobFinished event tree printed outputs).2.1 =
      printed ++ String.join ((printing outputs).map (·.write context jobFinished event)) := by
  induction outputs generalizing tree printed with
  | nil => simp [writeAll, printing]
  | cons output rest ih =>
    rw [writeAll]
    dsimp only
    rw [ih, write]
    cases hplace : output.place with
    | none => simp [printing, hplace, String.append_assoc]
    | some place => simp [printing, hplace]

theorem printing_writeAll (tree : FileTree) (printed : String) (outputs : List Output) :
    printing (writeAll context jobFinished event tree printed outputs).2.2 = printing outputs := by
  induction outputs generalizing tree printed with
  | nil => rfl
  | cons output rest ih =>
    rw [writeAll]
    dsimp only
    unfold printing at ih ⊢
    rw [write]
    cases hplace : output.place with
    | none => simp [hplace, ih]
    | some place => simp [hplace, ih]

theorem jobFinished_emit (e : Emission) :
    (e.emit context event).jobFinished = (e.jobFinished || event.finish?.isSome) := by
  cases event <;> simp [emit, Event.finish?]

theorem printed_emitAll {f : Formatter} {e : Emission} (h : printing e.outputs = [f])
    (events : List Event) : (e.emitAll context events).printed =
      e.printed ++ String.join (f.texts context e.jobFinished events) := by
  induction events generalizing e with
  | nil => simp [emitAll, Formatter.texts]
  | cons event rest ih =>
    have hprinting : printing (e.emit context event).outputs = [f] :=
      (printing_writeAll context e.jobFinished event e.tree e.printed e.outputs).trans h
    have hprinted : (e.emit context event).printed =
        e.printed ++ f.write context e.jobFinished event := by
      refine (printed_writeAll context e.jobFinished event e.tree e.printed e.outputs).trans ?_
      simp [h]
    have hrest := ih hprinting
    rw [emitAll, List.foldl_cons]
    rw [emitAll] at hrest
    rw [hrest, hprinted, jobFinished_emit, Formatter.texts, String.join_cons, String.append_assoc]

end Emission

def Configuration.actionIn? (name : String) : String × Value → Option String
  | (key, .string action) => if key = name then some action else none
  | _ => none

/-- What a configuration says about the severity of a name: the first string that stands under the
name in the map of severities. Without such a map errors fail a run and warnings are counted. -/
def Configuration.actionOf? (c : Configuration) (name : String) : Option String :=
  match c.fields.lookup "severities" with
  | some (.map table) => table.findSome? (actionIn? name)
  | _ => if name = "error" then some "fail" else if name = "warning" then some "warn" else none

theorem SeverityTable.action?_ofConfiguration (c : Configuration) (s : Severity) :
    (ofConfiguration c).action? s = c.actionOf? s.name := by
  have hdefault : default.actions.lookup s.name =
      if s.name = "error" then some "fail"
      else if s.name = "warning" then some "warn" else none := by
    simp only [default, List.lookup_cons, List.lookup_nil, failAction, warnAction]
    split <;> split <;> simp_all
  unfold action? ofConfiguration Configuration.actionOf? Configuration.get? Fields.get?
  cases c.fields.lookup "severities" with
  | none => exact hdefault
  | some value =>
    cases value with
    | map table =>
      change (List.filterMap _ table).lookup s.name =
        table.findSome? (Configuration.actionIn? s.name)
      induction table with
      | nil => rfl
      | cons entry rest ih =>
        obtain ⟨key, value⟩ := entry
        cases value with
        | string action =>
          change List.lookup s.name ((key, action) :: List.filterMap _ rest) = _
          rw [List.lookup_cons, ih, List.findSome?_cons]
          by_cases hkey : key = s.name
          · simp [Configuration.actionIn?, hkey]
          · simp [Configuration.actionIn?, hkey, beq_eq_false_iff_ne.2 (Ne.symm hkey)]
        | _ => rw [List.filterMap_cons_none rfl, ih, List.findSome?_cons_of_isNone rfl]
    | _ => exact hdefault

theorem SeverityTable.isFailure_iff {t : SeverityTable} {s : Severity} :
    t.isFailure s = true ↔ t.action? s = some "fail" := decide_eq_true_iff

theorem SeverityTable.isWarning_iff {t : SeverityTable} {s : Severity} :
    t.isWarning s = true ↔ t.action? s = some "warn" := decide_eq_true_iff

namespace Report

theorem disjoint_failures_warnings (r : Report) : r.failures.Disjoint r.warnings := by
  intro lint hfailure hwarning
  have hfail := SeverityTable.isFailure_iff.1 (List.mem_filter.1 hfailure).2
  have hwarn := SeverityTable.isWarning_iff.1 (List.mem_filter.1 hwarning).2
  exact absurd (hfail.symm.trans hwarn) (by decide)

end Report

namespace Plain

open Formatter

variable {context : FormatterContext}

/-- The character for a job, by what the severities of its lints lead to. -/
def characterOf (actions : List (Option String)) : Char :=
  if some "fail" ∈ actions then 'F' else if some "warn" ∈ actions then 'W' else '.'

theorem toList_progress (severities : SeverityTable) (lints : List Lint) :
    (progress severities lints).toList =
      [characterOf (lints.map fun lint ↦ severities.action? lint.severity)] := by
  have hfail : (lints.any fun lint ↦ severities.isFailure lint.severity) = true ↔
      some "fail" ∈ lints.map fun lint ↦ severities.action? lint.severity := by
    simp [SeverityTable.isFailure_iff]
  have hwarn : (lints.any fun lint ↦ severities.isWarning lint.severity) = true ↔
      some "warn" ∈ lints.map fun lint ↦ severities.action? lint.severity := by
    simp [SeverityTable.isWarning_iff]
  unfold progress characterOf
  simp only [hfail, hwarn]
  split
  · rfl
  · split <;> rfl

theorem characterOf_eq_failure {actions : List (Option String)} :
    characterOf actions = 'F' ↔ some "fail" ∈ actions := by
  unfold characterOf
  split
  · next h => simp [h]
  · next h => split <;> simp [h]

def progressText (severities : SeverityTable) (results : List JobResult) : String :=
  String.join (results.map fun r ↦ progress severities r.lints)

theorem toList_progressText (severities : SeverityTable) (results : List JobResult) :
    (progressText severities results).toList = results.map fun r ↦
      characterOf (r.lints.map fun lint ↦ severities.action? lint.severity) := by
  rw [progressText, String.toList_join, List.flatMap_map]
  simp only [toList_progress]
  exact List.flatMap_pure_eq_map _ results

theorem length_progressText (severities : SeverityTable) (results : List JobResult) :
    (progressText severities results).length = results.length := by
  rw [← String.length_toList, toList_progressText, List.length_map]

theorem failure_mem_progressText (severities : SeverityTable) (results : List JobResult) :
    'F' ∈ (progressText severities results).toList ↔
      ∃ lint ∈ results.flatMap (·.lints), severities.action? lint.severity = some "fail" := by
  simp only [toList_progressText, List.mem_map, characterOf_eq_failure, List.mem_flatMap]
  constructor
  · rintro ⟨r, hr, lint, hlint, h⟩
    exact ⟨lint, ⟨r, hr, hlint⟩, h⟩
  · rintro ⟨lint, ⟨r, hr, hlint⟩, h⟩
    exact ⟨r, hr, lint, hlint, h⟩

theorem join_texts_append {events : List Event} (h : ∀ event ∈ events, event.OfJob)
    (jobFinished : Bool) (rest : List Event) :
    String.join (formatter.texts context jobFinished (events ++ rest)) =
      progressText context.severities (finishes events) ++
        String.join (formatter.texts context (jobFinished || !(finishes events).isEmpty) rest) := by
  induction events generalizing jobFinished with
  | nil => simp [progressText, finishes]
  | cons event events ih =>
    obtain ⟨hevent, hevents⟩ := List.forall_mem_cons.1 h
    rw [List.cons_append, texts, String.join_cons, ih hevents]
    cases event with
    | jobStarted job => simp [formatter, write, Event.finish?]
    | jobFinished job lints =>
      simp [formatter, write, Event.finish?, progressText, String.append_assoc]
    | started files => exact hevent.elim
    | finished report => exact hevent.elim

theorem join_texts {events : List Event} (h : ∀ event ∈ events, event.OfJob) (files : List Path)
    (report : Report) :
    String.join (formatter.texts context false (.started files :: events ++ [.finished report])) =
      "Scanning " ++ counted files.length "file" ++ "...\n" ++
        progressText context.severities (finishes events) ++
        ((if (finishes events).isEmpty then "" else "\n") ++
          String.join (report.lints.map (lintLine context)) ++ "\n" ++ summary report) := by
  rw [List.cons_append, texts, String.join_cons, join_texts_append h]
  simp only [texts, String.join_cons, String.join_nil, formatter, write, Event.finish?,
    Option.isSome_none, Bool.or_false, Bool.false_or, String.append_empty, String.append_assoc]
  cases (finishes events).isEmpty <;> rfl

section Phrases

def phrases (line : String) : List String := (line.toList.dropLast.splitOn ',').map String.ofList

def inspected (count : ℕ) : String := counted count "file" ++ " inspected"

def reported (count : ℕ) (noun : String) : String := " " ++ counted count noun ++ " reported"

def noIssues : String := " no issues reported"

def pieces (r : Report) : List String :=
  inspected r.documents.length ::
    ((if r.hasFailures then [reported r.failures.length "failure"] else []) ++
      (if r.hasWarnings then [reported r.warnings.length "warning"] else []) ++
      if r.isSuccess then [noIssues] else [])

theorem toList_counted (count : ℕ) (noun : String) : (counted count noun).toList =
    Nat.toDigits 10 count ++ ' ' :: noun.toList ++ (if count = 1 then [] else ['s']) := by
  unfold counted
  dsimp only [toString]
  split <;> simp [Nat.repr_eq_ofList_toDigits]

theorem isDigit_of_mem {count : ℕ} : ∀ ch ∈ Nat.toDigits 10 count, ch.isDigit = true := fun _ ↦
  Nat.isDigit_of_mem_toDigits (by decide) (by decide)

variable {count : ℕ} {noun : String} {ch : Char}

theorem mem_counted (hdigit : ch.isDigit = false) (h : ch ∈ (counted count noun).toList) :
    ch ∈ (" " ++ noun ++ "s").toList := by
  have hnumber : ch ∉ Nat.toDigits 10 count := fun hmem ↦ by
    rw [isDigit_of_mem ch hmem] at hdigit
    cases hdigit
  rw [toList_counted] at h
  split at h <;> simp [hnumber] at h ⊢ <;> tauto

theorem mem_inspected (hdigit : ch.isDigit = false) (h : ch ∈ (inspected count).toList) :
    ch ∈ (" " ++ "file" ++ "s" ++ " inspected").toList := by
  rw [inspected, String.toList_append, List.mem_append] at h
  rw [String.toList_append, List.mem_append]
  exact h.imp_left (mem_counted hdigit)

theorem mem_reported (hdigit : ch.isDigit = false) (h : ch ∈ (reported count noun).toList) :
    ch ∈ (" " ++ (" " ++ noun ++ "s") ++ " reported").toList := by
  rw [reported, String.toList_append, String.toList_append, List.mem_append, List.mem_append] at h
  rw [String.toList_append, List.mem_append, String.toList_append, List.mem_append]
  exact h.imp_left (Or.imp_right (mem_counted hdigit))

theorem comma_not_mem_pieces (r : Report) : ∀ piece ∈ pieces r, ',' ∉ piece.toList := by
  intro piece hpiece
  simp only [pieces, List.mem_cons, List.mem_append, List.mem_ite_nil_right, List.not_mem_nil,
    or_false] at hpiece
  rcases hpiece with rfl | (⟨-, rfl⟩ | ⟨-, rfl⟩) | ⟨-, rfl⟩
  · exact fun h ↦ absurd (mem_inspected rfl h) (by simp)
  · exact fun h ↦ absurd (mem_reported rfl h) (by simp)
  · exact fun h ↦ absurd (mem_reported rfl h) (by simp)
  · simp [noIssues]

theorem phrases_summary (r : Report) : phrases (summary r) = pieces r := by
  have hline : (summary r).toList = [','].intercalate ((pieces r).map String.toList) ++ ['\n'] := by
    unfold summary pieces inspected reported noIssues
    cases r.hasFailures <;> cases r.hasWarnings <;> cases r.isSuccess <;>
      simp [List.intercalate]
  have hcomma : ∀ l ∈ (pieces r).map String.toList, ',' ∉ l := by
    intro l hl
    obtain ⟨piece, hpiece, rfl⟩ := List.mem_map.1 hl
    exact comma_not_mem_pieces r piece hpiece
  rw [phrases, hline, List.dropLast_concat, List.splitOn_intercalate ',' hcomma (by simp [pieces]),
    List.map_map]
  simp [Function.comp_def]

theorem reported_inj {count count' : ℕ} {noun : String} :
    reported count noun = reported count' noun ↔ count = count' := by
  refine ⟨fun h ↦ ?_, fun h ↦ by rw [h]⟩
  -- The digits end at the blank before the noun.
  have hdigits (count : ℕ) : (reported count noun).toList.tail.takeWhile Char.isDigit =
      Nat.toDigits 10 count := by
    rw [reported, String.toList_append, String.toList_append, toList_counted]
    simp [List.takeWhile_append_of_pos isDigit_of_mem]
  calc
    count = Nat.ofDigitChars 10 (Nat.toDigits 10 count) 0 := Nat.ofDigitChars_ten_toDigits.symm
    _ = Nat.ofDigitChars 10 (Nat.toDigits 10 count') 0 := by rw [← hdigits count, h, hdigits]
    _ = count' := Nat.ofDigitChars_ten_toDigits

theorem ne_of_mem_of_not_mem {s t : String} (ch : Char) (hs : ch ∈ s.toList)
    (ht : ch ∉ t.toList) : s ≠ t := fun h ↦ ht (h ▸ hs)

theorem reported_ne_inspected (count files : ℕ) (noun : String) :
    reported count noun ≠ inspected files :=
  ne_of_mem_of_not_mem 'r' (by simp [reported])
    fun h ↦ absurd (mem_inspected rfl h) (by simp)

theorem failure_ne_warning (count count' : ℕ) :
    reported count "failure" ≠ reported count' "warning" :=
  ne_of_mem_of_not_mem 'f' (by simp [reported, toList_counted])
    fun h ↦ absurd (mem_reported rfl h) (by simp)

theorem failure_ne_noIssues (count : ℕ) : reported count "failure" ≠ noIssues :=
  ne_of_mem_of_not_mem 'f' (by simp [reported, toList_counted]) (by simp [noIssues])

theorem warning_ne_noIssues (count : ℕ) : reported count "warning" ≠ noIssues :=
  ne_of_mem_of_not_mem 'w' (by simp [reported, toList_counted]) (by simp [noIssues])

theorem noIssues_ne_inspected (files : ℕ) : noIssues ≠ inspected files :=
  ne_of_mem_of_not_mem 'r' (by simp [noIssues])
    fun h ↦ absurd (mem_inspected rfl h) (by simp)

theorem nonempty_and_length {lints : List Lint} :
    (!lints.isEmpty) = true ∧ count = lints.length ↔ 0 < count ∧ count = lints.length :=
  and_congr_left fun h ↦ by simp [h, List.length_pos_iff]

theorem failure_mem_phrases (r : Report) (count : ℕ) :
    reported count "failure" ∈ phrases (summary r) ↔
      0 < count ∧ count = r.failures.length := by
  have hiff : reported count "failure" ∈ phrases (summary r) ↔
      r.hasFailures = true ∧ count = r.failures.length := by
    simp [phrases_summary, pieces, reported_ne_inspected, failure_ne_warning, failure_ne_noIssues,
      reported_inj]
  exact hiff.trans nonempty_and_length

theorem warning_mem_phrases (r : Report) (count : ℕ) :
    reported count "warning" ∈ phrases (summary r) ↔
      0 < count ∧ count = r.warnings.length := by
  have hiff : reported count "warning" ∈ phrases (summary r) ↔
      r.hasWarnings = true ∧ count = r.warnings.length := by
    simp [phrases_summary, pieces, reported_ne_inspected, (failure_ne_warning _ _).symm,
      warning_ne_noIssues, reported_inj]
  exact hiff.trans nonempty_and_length

theorem noIssues_mem_phrases (r : Report) : noIssues ∈ phrases (summary r) ↔ r.lints = [] := by
  simp [phrases_summary, pieces, noIssues_ne_inspected, (failure_ne_noIssues _).symm,
    (warning_ne_noIssues _).symm, Report.isSuccess]

end Phrases

section Lines

def lineStart (lint : Lint) : String :=
  s!"{lint.path.text}:{lint.range.first.line}:{lint.range.first.column} "

def lineEnd (debug : Bool) (lint : Lint) : String :=
  (match lint.linter with
    | some linter => "[" ++ linter ++ "] "
    | none => "") ++
  lint.message ++
  (match lint.exception with
    | some e => if debug then "\n" ++ e.details else " (specify --debug flag to see details)"
    | none => "") ++ "\n"

/-- The first character of the name of a severity as a capital; there is none if the name is
empty. -/
def letterOf (name : String) : String :=
  match name.toList with
  | [] => ""
  | ch :: _ => if ch.toNat < 128 then ch.toUpper.toString else String.ofList (Text.capital ch)

theorem capital_of_ascii {ch : Char} (h : ch.toNat < 128) : Text.capital ch = [ch.toUpper] := by
  have hall : ∀ n < 128, Text.capital (Char.ofNat n) = [(Char.ofNat n).toUpper] := by
    decide +kernel
  have hch := hall ch.toNat h
  rwa [Char.ofNat_toNat] at hch

theorem severityLetter_eq (s : Severity) : severityLetter s = letterOf s.name := by
  unfold severityLetter letterOf
  cases s.name.toList with
  | nil => rfl
  | cons ch rest =>
    dsimp only
    split
    · next h =>
      rw [capital_of_ascii h]
      rfl
    · rfl

theorem lintLine_eq (context : FormatterContext) (lint : Lint) : lintLine context lint =
    lineStart lint ++ severityField context.severities lint.severity ++
      lineEnd context.debug lint := by
  have hlinter : linterField lint.linter =
      match lint.linter with
      | some linter => "[" ++ linter ++ "] "
      | none => "" := by cases lint.linter <;> rfl
  have hexception : exceptionField context.debug lint.exception =
      match lint.exception with
      | some e =>
        if context.debug then "\n" ++ e.details else " (specify --debug flag to see details)"
      | none => "" := by cases lint.exception <;> rfl
  simp only [lintLine, lineStart, lineEnd, hlinter, hexception, String.append_assoc]

theorem letter_iff (context : FormatterContext) (lint : Lint) :
    (lintLine context lint =
        lineStart lint ++ (letterOf lint.severity.name ++ " ") ++ lineEnd context.debug lint ↔
      context.severities.isFailure lint.severity ∨ context.severities.isWarning lint.severity) ∧
    (lintLine context lint = lineStart lint ++ lineEnd context.debug lint ↔
      ¬ (context.severities.isFailure lint.severity ∨
        context.severities.isWarning lint.severity)) := by
  rw [lintLine_eq, severityField, severityLetter_eq, ← Bool.or_eq_true]
  have hlength : lineStart lint ++ (letterOf lint.severity.name ++ " ") ++
      lineEnd context.debug lint ≠ lineStart lint ++ lineEnd context.debug lint := fun h ↦ by
    have := congrArg String.length h
    simp at this
  split
  · next h => simp [h, hlength]
  · next h => simp [h, hlength.symm]

end Lines

end Plain

namespace CommandLine

open Formatter Plain

/-- A call of the tool that comes to a report. -/
structure Reported (app : Application) (a : Arguments) (input : ByteArray) (world : World)
    (schedule : ℕ → Schedule) where
  options : RunOptions
  application : Application
  configuration : Configuration
  tree : FileTree
  outputs : List Output
  report : Report
  options_eq : runOptions a input = .ok options
  configuration_eq : app.loadConfiguration world.tree options world.tree.workingDirectory =
    (application, .ok configuration)
  outputs_eq : application.formatters.load world.tree a.formatterRequests = (tree, .ok outputs)
  report_eq : (Run.start application configuration options { world with tree := tree }
    schedule).result = .ok report

namespace Reported

variable {app : Application} {a : Arguments} {input : ByteArray} {world : World}
  {schedule : ℕ → Schedule}

def run (call : Reported app a input world schedule) : Run :=
  Run.start call.application call.configuration call.options { world with tree := call.tree }
    schedule

def context (call : Reported app a input world schedule) : FormatterContext :=
  call.application.formatterContext call.configuration call.options.debug
    call.tree.workingDirectory

theorem context_severities (call : Reported app a input world schedule) :
    call.context.severities = .ofConfiguration call.configuration := rfl

/-- What the configuration says about the severity of a lint. -/
def action? (call : Reported app a input world schedule) (lint : Lint) : Option String :=
  call.configuration.actionOf? lint.severity.name

def text (call : Reported app a input world schedule) : String :=
  String.join (Plain.formatter.texts call.context false call.run.events)

theorem scan_eq (call : Reported app a input world schedule) :
    scan app a input world schedule =
      let emission := (Emission.start call.run.tree call.outputs).emitAll call.context
        call.run.events
      ⟨if call.report.hasFailures then failureStatus else 0, emission.printed, "",
        emission.tree⟩ := by
  have hresult : (Run.start call.application call.configuration call.options
      { world with tree := call.tree } schedule).result = .ok call.report := call.report_eq
  simp only [scan, call.options_eq, call.configuration_eq, call.outputs_eq, hresult]
  rfl

theorem status_eq_two (call : Reported app a input world schedule) :
    (scan app a input world schedule).status = 2 ↔ ∃ lint, lint ∈ call.report.failures := by
  have hfailures : call.report.hasFailures = true ↔ ∃ lint, lint ∈ call.report.failures := by
    rw [Report.hasFailures, Bool.not_eq_true', List.isEmpty_eq_false_iff_exists_mem]
  rw [call.scan_eq, ← hfailures]
  cases call.report.hasFailures <;> simp [failureStatus]

theorem printed_eq (call : Reported app a input world schedule)
    (h : Emission.printing call.outputs = [Plain.formatter]) :
    (scan app a input world schedule).printed = call.text := by
  rw [call.scan_eq, Reported.text]
  exact (Emission.printed_emitAll call.context h call.run.events).trans String.empty_append

end Reported

/-- A call that comes to a report has the exit status of a failure if an `F` is shown for one of its
jobs or a file that is no document counts as one. A character is shown for each job. The summary has
the numbers of the lints that count as failures and as warnings, unless there are none, and says
that there are no issues if neither a job nor the reading of a file has led to a lint. The line of a
lint has the letter of its severity if the lint counts. -/
theorem verdict_matches_text (app : Application) (a : Arguments) (input : ByteArray)
    (world : World) (schedule : ℕ → Schedule) (call : Reported app a input world schedule)
    (workers : ℕ)
    (hs : call.options.concurrency.isSome → ∀ count, (schedule count).Completes workers count) :
    ∃ (x : Run.Setup call.application call.configuration call.options
          { world with tree := call.tree })
        (jobs : List ScheduledJob) (results : List JobResult) (characters : String),
      Run.jobsFor x.selection x.tree.workingDirectory x.inspected = .ok jobs ∧
      List.Forall₂ (Assignment.ComesTo x.settings) x.assignments results ∧
      call.text =
        "Scanning " ++ counted x.sources.paths.length "file" ++ "...\n" ++ characters ++
          ((if characters = "" then "" else "\n") ++
            String.join (call.report.lints.map (lintLine call.context)) ++ "\n" ++
            summary call.report) ∧
      (Emission.printing call.outputs = [Plain.formatter] →
        (scan app a input world schedule).printed = call.text) ∧
      characters.length = jobs.length ∧
      characters.toList.Perm (results.map fun r ↦ characterOf (r.lints.map call.action?)) ∧
      ((scan app a input world schedule).status = 2 ↔
        'F' ∈ characters.toList ∨ ∃ lint ∈ x.loaded.lints, call.action? lint = some "fail") ∧
      call.report.failures = call.report.lints.filter (call.action? · = some "fail") ∧
      call.report.warnings = call.report.lints.filter (call.action? · = some "warn") ∧
      (∀ count, reported count "failure" ∈ phrases (summary call.report) ↔ 0 < count ∧
        count = (call.report.lints.filter (call.action? · = some "fail")).length) ∧
      (∀ count, reported count "warning" ∈ phrases (summary call.report) ↔ 0 < count ∧
        count = (call.report.lints.filter (call.action? · = some "warn")).length) ∧
      call.report.failures.Disjoint call.report.warnings ∧
      (noIssues ∈ phrases (summary call.report) ↔
        (∀ r ∈ results, r.lints = []) ∧ x.loaded.lints = []) ∧
      ∀ lint ∈ call.report.lints,
        (lintLine call.context lint = lineStart lint ++ (letterOf lint.severity.name ++ " ") ++
            lineEnd call.options.debug lint ↔
          lint ∈ call.report.failures ∨ lint ∈ call.report.warnings) ∧
        (lintLine call.context lint = lineStart lint ++ lineEnd call.options.debug lint ↔
          ¬ (lint ∈ call.report.failures ∨ lint ∈ call.report.warnings)) := by
  obtain ⟨x, jobs, results, events, hjobs, hresults, hreport, hevents, hofJob, hperm⟩ :=
    Run.Setup.events_of_result hs call.report_eq
  have hlength : (progressText call.context.severities (finishes events)).length = jobs.length := by
    rw [length_progressText, hperm.length_eq, ← hresults.length_eq]
    exact (Run.forall₂_jobsFor hjobs).length_eq
  have hempty : progressText call.context.severities (finishes events) = "" ↔
      (finishes events).isEmpty = true := by
    rw [← String.length_eq_zero_iff, length_progressText, List.isEmpty_iff, List.length_eq_zero_iff]
  have hmem : ∀ lint, lint ∈ call.report.lints ↔
      lint ∈ (finishes events).flatMap (·.lints) ∨ lint ∈ x.loaded.lints := fun lint ↦ by
    rw [hreport, (x.perm_lints results).mem_iff, List.mem_append,
      (hperm.flatMap_right (·.lints)).mem_iff]
  have hseverities : call.report.severities = .ofConfiguration call.configuration := by
    rw [hreport]
    rfl
  have haction (lint : Lint) :
      (SeverityTable.ofConfiguration call.configuration).action? lint.severity =
        call.action? lint := SeverityTable.action?_ofConfiguration _ _
  have hfailures :
      call.report.failures = call.report.lints.filter (call.action? · = some "fail") := by
    simp only [Report.failures, hseverities, SeverityTable.isFailure, haction]
    rfl
  have hwarnings :
      call.report.warnings = call.report.lints.filter (call.action? · = some "warn") := by
    simp only [Report.warnings, hseverities, SeverityTable.isWarning, haction]
    rfl
  refine ⟨x, jobs, results, progressText call.context.severities (finishes events), hjobs,
    hresults, ?_, call.printed_eq, hlength, ?_, ?_, hfailures, hwarnings, fun count ↦ ?_,
    fun count ↦ ?_, call.report.disjoint_failures_warnings, ?_, fun lint hlint ↦ ?_⟩
  · rw [Reported.text, Reported.run, hevents, join_texts hofJob]
    simp only [hempty]
  · rw [toList_progressText]
    simp only [call.context_severities, haction]
    exact hperm.map _
  · rw [call.status_eq_two, hfailures, failure_mem_progressText, call.context_severities]
    simp only [haction, List.mem_filter, hmem, or_and_right, exists_or, decide_eq_true_eq]
  · rw [failure_mem_phrases, hfailures]
  · rw [warning_mem_phrases, hwarnings]
  · rw [noIssues_mem_phrases, hreport, ← List.length_eq_zero_iff,
      (x.perm_lints results).length_eq, List.length_eq_zero_iff, List.append_eq_nil_iff,
      List.flatMap_eq_nil_iff]
  · rw [Report.failures, Report.warnings, hseverities, List.mem_filter, List.mem_filter]
    simp only [hlint, true_and]
    exact letter_iff call.context lint

/-- The application `twoLinters` with formatters. Lints of `B` have a severity with an empty name,
which fails a run, and errors are counted as warnings. -/
def printingTwo : Application :=
  { twoLinters with
    base := ⟨[("severities", .map [("error", .string "warn"), ("", .string "fail")]),
      ("linters", .map [("B", .map [("severity", .string "")])])], none⟩
    formatters := .standard }

def bothOnInput : Arguments :=
  { Arguments.none with
    includeLinters := ["A", "B"]
    stdinFilePath := some ⟨"a.txt"⟩
    concurrency := some (.workers 2) }

theorem runOptions_bothOnInput : runOptions bothOnInput ByteArray.empty =
    .ok { byTwoWorkers with standardInput := some ⟨⟨"a.txt"⟩, ""⟩ } := by
  have hdecode : Text.decode ByteArray.empty = .ok "" := by
    rw [Text.decode, ByteArray.toList_empty]
    rfl
  have hinput : standardInput bothOnInput ByteArray.empty = .ok (some ⟨⟨"a.txt"⟩, ""⟩) := by
    rw [standardInput, hdecode]
    rfl
  rw [runOptions, hinput]
  rfl

theorem formatterRequests_bothOnInput : bothOnInput.formatterRequests = [] := by
  have houtputs : bothOnInput.outputs = [] := by
    simp [Arguments.outputs, bothOnInput, Arguments.none]
  rw [Arguments.formatterRequests, houtputs]
  rfl

def bothReported : Reported printingTwo bothOnInput ByteArray.empty emptyWorld backwards :=
  ⟨_, _, _, _, _, _, runOptions_bothOnInput, rfl,
    (congrArg (Formatters.load _ _) formatterRequests_bothOnInput).trans rfl, rfl⟩

theorem verdict_matches_text_twoLinters :
    (∀ count, (backwards count).Completes 2 count) ∧
    (scan printingTwo bothOnInput ByteArray.empty emptyWorld backwards).printed =
      bothReported.text ∧
    (scan printingTwo bothOnInput ByteArray.empty emptyWorld backwards).status = 2 ∧
    reported 1 "failure" ∈ phrases (summary bothReported.report) ∧
    reported 1 "warning" ∈ phrases (summary bothReported.report) ∧
    lintLine bothReported.context ⟨some "A", ⟨"a.txt"⟩, .start, "A", .error, none⟩ =
      "a.txt:1:1 E [A] A\n" ∧
    lintLine bothReported.context ⟨some "B", ⟨"a.txt"⟩, .start, "B", .other "", none⟩ =
      "a.txt:1:1  [B] B\n" := by
  have hc : ∀ count, (backwards count).Completes 2 count := fun count ↦
    Schedule.completes_inTurn (by decide) (List.reverse_perm _)
  obtain ⟨_, _, _, _, -, -, -, hprinted, -, -, -, hfailures, hwarnings, hfailure, hwarning, -, -,
    hline⟩ := verdict_matches_text _ _ _ _ _ bothReported 2 fun _ ↦ hc
  have hlints : bothReported.report.lints.Perm
      [⟨some "A", ⟨"a.txt"⟩, .start, "A", .error, none⟩,
        ⟨some "B", ⟨"a.txt"⟩, .start, "B", .other "", none⟩] := List.mergeSort_perm _ _
  have hstatus : ∃ lint, lint ∈ bothReported.report.failures := by
    rw [hfailures]
    exact ⟨_, List.mem_filter.2 ⟨hlints.mem_iff.2 (List.mem_cons_of_mem _ List.mem_cons_self), rfl⟩⟩
  refine ⟨hc, hprinted rfl, bothReported.status_eq_two.2 hstatus, (hfailure 1).2 ⟨by decide, ?_⟩,
    (hwarning 1).2 ⟨by decide, ?_⟩, ?_, ?_⟩
  · rw [(hlints.filter _).length_eq]
    rfl
  · rw [(hlints.filter _).length_eq]
    rfl
  · have hmem := hlints.mem_iff.2 List.mem_cons_self
    rw [(hline _ hmem).1.2 (.inr ?_)]
    · rfl
    · rw [hwarnings]
      exact List.mem_filter.2 ⟨hmem, rfl⟩
  · have hmem := hlints.mem_iff.2 (List.mem_cons_of_mem _ List.mem_cons_self)
    rw [(hline _ hmem).1.2 (.inl ?_)]
    · rfl
    · rw [hfailures]
      exact List.mem_filter.2 ⟨hmem, rfl⟩

end CommandLine

end LintEngine
