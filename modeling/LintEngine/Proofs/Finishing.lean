import LintEngine.Proofs.Jobs

namespace LintEngine

namespace Schedule

def finishedBy : WorkerStep → Option ℕ
  | .start _ => none
  | .finish number => some number

def finished (schedule : Schedule) : List ℕ := schedule.filterMap finishedBy

end Schedule

namespace Pool

variable {pool pool' : Pool} {workers : ℕ}

def unfinished (pool : Pool) : List ℕ := pool.waiting ++ pool.running

theorem perm_unfinished_step {s : WorkerStep} (h : pool.step workers s = some pool') :
    pool.unfinished.Perm ((Schedule.finishedBy s).toList ++ pool'.unfinished) := by
  cases s with
  | start number =>
    rw [step] at h
    split at h
    · next hmem =>
      cases h
      refine ((List.perm_cons_erase hmem.1).append_right _).trans ?_
      exact List.perm_middle.symm
    · cases h
  | finish number =>
    rw [step] at h
    split at h
    · next hmem =>
      cases h
      exact ((List.perm_cons_erase hmem).append_left _).trans List.perm_middle
    · cases h

theorem perm_unfinished_run {schedule : Schedule}
    (h : schedule.foldlM (step workers) pool = some pool') :
    pool.unfinished.Perm (schedule.finished ++ pool'.unfinished) := by
  induction schedule generalizing pool with
  | nil =>
    cases h
    exact .refl _
  | cons s rest ih =>
    rw [List.foldlM_cons] at h
    obtain ⟨next, hnext, h⟩ := Option.bind_eq_some_iff.1 h
    have hfinished : Schedule.finished (s :: rest) =
        (Schedule.finishedBy s).toList ++ Schedule.finished rest := by
      cases s <;> rfl
    rw [hfinished, List.append_assoc]
    exact (perm_unfinished_step hnext).trans ((ih h).append_left _)

end Pool

theorem Schedule.Completes.perm_finished {workers count : ℕ} {schedule : Schedule}
    (h : schedule.Completes workers count) : schedule.finished.Perm (List.range count) := by
  simpa [Pool.unfinished] using (Pool.perm_unfinished_run h).symm

def Event.finish? : Event → Option JobResult
  | .jobFinished job lints => some ⟨job, lints⟩
  | _ => none

def finishes (events : List Event) : List JobResult := events.filterMap Event.finish?

@[simp]
theorem finishes_jobStarted (job : Job) (events : List Event) :
    finishes (.jobStarted job :: events) = finishes events := rfl

@[simp]
theorem finishes_jobFinished (job : Job) (lints : List Lint) (events : List Event) :
    finishes (.jobFinished job lints :: events) = ⟨job, lints⟩ :: finishes events := rfl

theorem finishes_sequentialEvents (results : List JobResult) :
    finishes (sequentialEvents results) = results := by
  induction results with
  | nil => rfl
  | cons r rest ih => exact congrArg (r :: ·) ih

theorem filterMap_getElem?_range (results : List JobResult) :
    (List.range results.length).filterMap (results[·]?) = results := by
  induction results with
  | nil => rfl
  | cons r rest ih =>
    rw [List.length_cons, List.range_succ_eq_map, List.filterMap_cons, List.getElem?_cons_zero,
      List.filterMap_map]
    exact congrArg (r :: ·) ih

theorem perm_finishes_scheduledEvents {results : List JobResult} {workers : ℕ}
    {schedule : Schedule} (h : schedule.Completes workers results.length) :
    (finishes (scheduledEvents results schedule)).Perm results := by
  have heq : finishes (scheduledEvents results schedule) =
      schedule.finished.filterMap (results[·]?) := by
    rw [finishes, scheduledEvents, Schedule.finished, List.filterMap_filterMap,
      List.filterMap_filterMap]
    congr 1
    funext s
    cases s with
    | start number =>
      rw [stepEvent?]
      cases results[number]? <;> rfl
    | finish number =>
      rw [stepEvent?, Schedule.finishedBy, Option.bind_some]
      cases results[number]? <;> rfl
  rw [heq]
  exact (h.perm_finished.filterMap _).trans (.of_eq (filterMap_getElem?_range results))

def Event.OfJob : Event → Prop
  | .jobStarted _ => True
  | .jobFinished _ _ => True
  | _ => False

theorem ofJob_of_mem_sequentialEvents {results : List JobResult} :
    ∀ event ∈ sequentialEvents results, event.OfJob := by
  intro event h
  obtain ⟨r, -, h⟩ := List.mem_flatMap.1 h
  simp only [List.mem_cons, List.not_mem_nil, or_false] at h
  rcases h with rfl | rfl <;> trivial

theorem ofJob_of_mem_scheduledEvents {results : List JobResult} {schedule : Schedule} :
    ∀ event ∈ scheduledEvents results schedule, event.OfJob := by
  intro event h
  obtain ⟨s, -, h⟩ := List.mem_filterMap.1 h
  cases s with
  | start number =>
    obtain ⟨r, -, rfl⟩ := Option.map_eq_some_iff.1 h
    trivial
  | finish number =>
    obtain ⟨r, -, rfl⟩ := Option.map_eq_some_iff.1 h
    trivial

namespace Run.Setup

variable {a : Application} {c : Configuration} {options : RunOptions} {world : World}
  {workers : ℕ} {schedule : ℕ → Schedule}

theorem ofJob_of_mem_jobEvents {concurrency : Option Concurrency} {results : List JobResult} :
    ∀ event ∈ jobEvents concurrency schedule results, event.OfJob := by
  unfold jobEvents
  split
  · exact ofJob_of_mem_scheduledEvents
  · exact ofJob_of_mem_sequentialEvents

theorem perm_finishes_jobEvents {concurrency : Option Concurrency} {results : List JobResult}
    (hs : concurrency.isSome → ∀ count, (schedule count).Completes workers count) :
    (finishes (jobEvents concurrency schedule results)).Perm results := by
  unfold jobEvents
  split
  · next h => exact perm_finishes_scheduledEvents (hs h results.length)
  · exact .of_eq (finishes_sequentialEvents results)

/-- Between its start and its end, a run that has a report tells of its jobs and of what each comes
to. -/
theorem events_of_result {report : Report}
    (hs : options.concurrency.isSome → ∀ count, (schedule count).Completes workers count)
    (h : (start a c options world schedule).result = .ok report) :
    ∃ (x : Setup a c options world) (jobs : List ScheduledJob) (results : List JobResult)
        (events : List Event),
      jobsFor x.selection x.tree.workingDirectory x.inspected = .ok jobs ∧
      List.Forall₂ (Assignment.ComesTo x.settings) x.assignments results ∧
      report = x.report results ∧
      (start a c options world schedule).events =
        .started x.sources.paths :: events ++ [.finished report] ∧
      (∀ event ∈ events, event.OfJob) ∧ (finishes events).Perm results := by
  rcases start_cases a c options world schedule with ⟨e, he, -⟩ | ⟨x, hx⟩
  · rw [he] at h
    cases h
  · rw [hx] at h ⊢
    rcases x.inspect_eq hs with ⟨e, -, he⟩ | ⟨jobs, results, hjobs, hresults, hrun⟩
    · rw [he] at h
      cases h
    · rw [hrun] at h ⊢
      cases h
      exact ⟨x, jobs, results, _, hjobs, hresults, rfl, rfl, ofJob_of_mem_jobEvents,
        perm_finishes_jobEvents hs⟩

end Run.Setup

end LintEngine
