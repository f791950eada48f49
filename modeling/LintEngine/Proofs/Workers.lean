import LintEngine.Proofs.LintOrder
import LintEngine.Run.Basic
import Mathlib.Data.List.Perm.Basic

namespace LintEngine

/-- The jobs that no worker has started yet, and those that are not finished. -/
structure Pool where
  waiting : List ℕ
  running : List ℕ
deriving DecidableEq, Repr

/-- A job starts when a worker is free, and only a running job finishes. -/
def Pool.step (workers : ℕ) (pool : Pool) : WorkerStep → Option Pool
  | .start number =>
    if number ∈ pool.waiting ∧ pool.running.length < workers then
      some ⟨pool.waiting.erase number, number :: pool.running⟩
    else none
  | .finish number =>
    if number ∈ pool.running then some ⟨pool.waiting, pool.running.erase number⟩ else none

namespace Schedule

/-- The workers can take all steps, and all jobs are finished at the end. -/
def Completes (workers count : ℕ) (schedule : Schedule) : Prop :=
  schedule.foldlM (Pool.step workers) ⟨List.range count, []⟩ = some ⟨[], []⟩

instance (workers count : ℕ) (schedule : Schedule) : Decidable (schedule.Completes workers count) :=
  inferInstanceAs (Decidable (_ = _))

def inTurn (order : List ℕ) : Schedule :=
  order.flatMap fun number ↦ [.start number, .finish number]

theorem foldlM_inTurn {workers : ℕ} (hw : 0 < workers) {order waiting : List ℕ}
    (h : order.Perm waiting) :
    (inTurn order).foldlM (Pool.step workers) ⟨waiting, []⟩ = some ⟨[], []⟩ := by
  induction order generalizing waiting with
  | nil =>
    cases h.nil_eq
    rfl
  | cons number rest ih =>
    have hmem : number ∈ waiting := h.subset List.mem_cons_self
    have hrest : rest.Perm (waiting.erase number) := (List.cons_perm_iff_perm_erase.1 h).2
    have hstep : inTurn (number :: rest) = .start number :: .finish number :: inTurn rest := rfl
    simp only [hstep, List.foldlM_cons, Pool.step, hmem, hw, List.length_nil, and_self, if_true,
      List.mem_singleton, List.erase_cons_head, bind, Option.bind]
    exact ih hrest

theorem completes_inTurn {workers count : ℕ} (hw : 0 < workers) {order : List ℕ}
    (h : order.Perm (List.range count)) : (inTurn order).Completes workers count :=
  foldlM_inTurn hw h

end Schedule

section Delivery

variable {results : List JobResult} {pool pool' : Pool} {delivered : Delivered} {workers : ℕ}

variable (results pool delivered) in
/-- Every job is waiting, running or delivered, and what is delivered is the result of its job. -/
structure Accounted : Prop where
  sound : ∀ entry ∈ delivered, results[entry.1]? = some entry.2
  complete : ∀ number < results.length,
    number ∈ pool.waiting ∨ number ∈ pool.running ∨ number ∈ delivered.map Prod.fst

theorem accounted_start : Accounted results ⟨List.range results.length, []⟩ [] where
  sound := by simp
  complete := fun number hn ↦ .inl (List.mem_range.2 hn)

/-- No step of a worker loses a job. -/
theorem Accounted.step (h : Accounted results pool delivered) {s : WorkerStep}
    (hs : pool.step workers s = some pool') :
    Accounted results pool' (deliver results delivered s) := by
  cases s with
  | start number =>
    rw [Pool.step] at hs
    split at hs
    · cases hs
      refine ⟨h.sound, fun other ho ↦ ?_⟩
      rcases h.complete other ho with hw | hr | hd
      · by_cases he : other = number
        · exact .inr (.inl (by simp [he]))
        · exact .inl ((List.mem_erase_of_ne he).2 hw)
      · exact .inr (.inl (List.mem_cons_of_mem _ hr))
      · exact .inr (.inr hd)
    · cases hs
  | finish number =>
    rw [Pool.step] at hs
    split at hs
    · cases hs
      have hkept : ∀ entry ∈ delivered, entry ∈ deliver results delivered (.finish number) := by
        intro entry he
        rw [deliver]
        split
        · exact List.mem_append_left _ he
        · exact he
      refine ⟨fun entry he ↦ ?_, fun other ho ↦ ?_⟩
      · rw [deliver] at he
        split at he
        · next r hr =>
          rcases List.mem_append.1 he with he | he
          · exact h.sound entry he
          · rw [List.mem_singleton.1 he, hr]
        · exact h.sound entry he
      · rcases h.complete other ho with hw | hr | hd
        · exact .inl hw
        · by_cases he : other = number
          · subst he
            refine .inr (.inr (List.mem_map.2 ⟨(other, results[other]), ?_, rfl⟩))
            simp [deliver, List.getElem?_eq_getElem ho]
          · exact .inr (.inl ((List.mem_erase_of_ne he).2 hr))
        · obtain ⟨entry, he, rfl⟩ := List.mem_map.1 hd
          exact .inr (.inr (List.mem_map_of_mem (hkept entry he)))
    · cases hs

theorem Accounted.run (h : Accounted results pool delivered) {schedule : Schedule}
    (hs : schedule.foldlM (Pool.step workers) pool = some pool') :
    Accounted results pool' (schedule.foldl (deliver results) delivered) := by
  induction schedule generalizing pool delivered with
  | nil =>
    cases hs
    exact h
  | cons s rest ih =>
    rw [List.foldlM_cons] at hs
    obtain ⟨next, hnext, hs⟩ := Option.bind_eq_some_iff.1 hs
    exact ih (h.step hnext) hs

theorem Accounted.lookup (h : Accounted results ⟨[], []⟩ delivered) {number : ℕ}
    (hn : number < results.length) : delivered.lookup number = results[number]? := by
  cases hl : delivered.lookup number with
  | none =>
    rcases h.complete number hn with hw | hr | hd
    · cases hw
    · cases hr
    · obtain ⟨entry, he, hkey⟩ := List.mem_map.1 hd
      have hne := List.lookup_eq_none_iff.1 hl entry he
      simp [hkey] at hne
  | some r =>
    obtain ⟨l₁, l₂, hs, -⟩ := List.lookup_eq_some_iff.1 hl
    exact (h.sound (number, r) (by simp [hs])).symm

theorem collectLints_eq
    (h : ∀ number < results.length, delivered.lookup number = results[number]?) :
    collectLints results.length delivered = results.flatMap (·.lints) := by
  have hrange : (List.range results.length).flatMap
      (fun number ↦ (results[number]?.map (·.lints)).getD []) = results.flatMap (·.lints) := by
    clear h
    induction results with
    | nil => rfl
    | cons r rest ih =>
      rw [List.length_cons, List.range_succ_eq_map, List.flatMap_cons, List.flatMap_map,
        List.flatMap_cons, ← ih]
      rfl
  rw [← hrange, collectLints]
  refine List.flatMap_congr (fun number hn ↦ ?_)
  rw [h number (List.mem_range.1 hn)]
  cases results[number]? <;> rfl

theorem scheduledLints_eq {schedule : Schedule} (h : schedule.Completes workers results.length) :
    scheduledLints results schedule = results.flatMap (·.lints) :=
  collectLints_eq fun _ ↦ (accounted_start.run h).lookup

end Delivery

theorem Run.inspect_result {workers : ℕ} {schedule : ℕ → Schedule}
    (h : ∀ count, (schedule count).Completes workers count) (selection : Selection)
    (c : Configuration) (settings : JobSettings) (concurrency : Concurrency)
    (sequential : ℕ → Schedule) (tree : FileTree) (files : List Path) (loaded : LoadedDocuments) :
    (Run.inspect selection c settings (some concurrency) schedule tree files loaded).result =
      (Run.inspect selection c settings none sequential tree files loaded).result := by
  simp only [Run.inspect, Option.isSome_some, Option.isSome_none, if_true, Bool.false_eq_true,
    if_false, scheduledLints_eq (h _)]
  cases Run.jobsFor selection tree.workingDirectory (loaded.documents.map Run.documentPath) <;> rfl

/-- Running jobs on workers comes to the same as running them one after the other, and the order in
which lints about different lines come in does not matter to a report. -/
theorem parallel_eq_sequential (a : Application) (c : Configuration) (options : RunOptions)
    (world : World) (concurrency : Concurrency) (workers : ℕ) (schedule sequential : ℕ → Schedule)
    (h : ∀ count, (schedule count).Completes workers count) :
    (Run.start a c { options with concurrency := some concurrency } world schedule).result =
      (Run.start a c { options with concurrency := none } world sequential).result ∧
    ∀ xs ys documents severities,
      (∀ path line, xs.filter (Lint.sameLine path line) = ys.filter (Lint.sameLine path line)) →
      (Report.make xs documents severities).lints =
        (Report.make ys documents severities).lints := by
  refine ⟨?_, fun xs ys _ _ hxy ↦ Lint.sort_congr hxy⟩
  have hload : SourceFiles.load a c { options with concurrency := some concurrency } world =
      SourceFiles.load a c { options with concurrency := none } world := rfl
  unfold Run.start
  dsimp only
  rw [hload]
  split
  · rfl
  · split
    · rfl
    · split
      · rfl
      · exact Run.inspect_result h _ _ _ _ _ _ _ _

/-- An application with two linters that both find something on the first line. -/
def twoLinters : Application where
  name := "Two"
  executableName := "two"
  version := "1"
  configurationFileNames := []
  fileExtensions := ["txt"]
  base := .empty
  homeUrl := none
  issuesUrl := none
  linters := ⟨["A", "B"].map fun name ↦
    ⟨name, "", .empty, fun _ ↦ .ok fun _ ↦ .found [⟨.start, name⟩]⟩⟩
  plugins := .empty
  activated := []
  formatters := ⟨[]⟩
  parser := .plain

def bothOnText : RunOptions :=
  { RunOptions.none with
    includedLinters := ["A", "B"]
    standardInput := some ⟨⟨"a.txt"⟩, "x"⟩ }

def backwards (count : ℕ) : Schedule := .inTurn (List.range count).reverse

theorem parallel_eq_sequential_backwards :
    (∀ count, (backwards count).Completes 2 count) ∧
    (Run.start twoLinters .empty { bothOnText with concurrency := some (.workers 2) }
        ⟨⟨[], []⟩, fun tree _ _ ↦ (tree, .killed)⟩ backwards).result =
      (Run.start twoLinters .empty { bothOnText with concurrency := none }
        ⟨⟨[], []⟩, fun tree _ _ ↦ (tree, .killed)⟩ Schedule.oneByOne).result ∧
    (Report.make [⟨none, ⟨"b"⟩, .start, "", .error, none⟩, ⟨none, ⟨"a"⟩, .start, "", .error, none⟩]
        [] .default).lints =
      (Report.make
        [⟨none, ⟨"a"⟩, .start, "", .error, none⟩, ⟨none, ⟨"b"⟩, .start, "", .error, none⟩]
        [] .default).lints := by
  have hc : ∀ count, (backwards count).Completes 2 count := fun count ↦
    Schedule.completes_inTurn (by decide) (List.reverse_perm _)
  have h := parallel_eq_sequential twoLinters .empty bothOnText
    ⟨⟨[], []⟩, fun tree _ _ ↦ (tree, .killed)⟩ (.workers 2) 2 backwards .oneByOne hc
  refine ⟨hc, h.1, h.2 _ _ _ _ (fun path line ↦ ?_)⟩
  have ha : (Path.mk "a").components = [.name "a"] := rfl
  have hb : (Path.mk "b").components = [.name "b"] := rfl
  simp only [List.filter_cons, List.filter_nil, Lint.sameLine, Path.same, ha, hb]
  by_cases hp : [Path.Component.name "a"] = path.components
  · simp [← hp]
  · simp [hp]

end LintEngine
