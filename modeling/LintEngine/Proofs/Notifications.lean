import LintEngine.Proofs.Isolation
import Mathlib.Algebra.Group.Nat.Defs

namespace LintEngine

namespace Number

def Binary.Below (b : Binary) (n : ℕ) : Prop :=
  b.mantissa * 2 ^ b.exponent.toNat < n * 2 ^ (-b.exponent).toNat

theorem Binary.mantissa_ofFloat_lt (x : Float) : (Binary.ofFloat x).mantissa < 2 ^ 53 := by
  have hfraction : x.toBits.toNat % 2 ^ 52 < 2 ^ 52 := Nat.mod_lt _ (by decide)
  unfold Binary.ofFloat
  dsimp only
  split
  · dsimp only
    omega
  · dsimp only
    omega

namespace Duration

theorem roundQuotient_one (num : ℕ) : roundQuotient num 1 = num := by
  simp [roundQuotient, Nat.mod_one]

theorem roundQuotient_le (num den : ℕ) : roundQuotient num den ≤ num / den + 1 := by
  unfold roundQuotient
  dsimp only
  split <;> omega

theorem isSome_ofSeconds? {x : Float} (h : (Binary.ofFloat x).Below (2 ^ 64)) :
    (ofSeconds? x).isSome := by
  have hm := Binary.mantissa_ofFloat_lt x
  unfold Binary.Below at h
  simp only [ofSeconds?, Option.isSome_ite, Nat.shiftLeft_eq, Nat.one_mul]
  -- Without a negative exponent there is nothing to round; with one, the mantissa is bound enough.
  rcases Int.le_total 0 (Binary.ofFloat x).exponent with he | he
  · have hzero : (-(Binary.ofFloat x).exponent).toNat = 0 := by omega
    rw [hzero, Nat.pow_zero, Nat.mul_one] at h
    rw [hzero, Nat.pow_zero, roundQuotient_one, Nat.mul_div_cancel _ (by decide)]
    simpa using h
  · have hzero : (Binary.ofFloat x).exponent.toNat = 0 := by omega
    rw [hzero, Nat.pow_zero, Nat.mul_one]
    have hround := roundQuotient_le ((Binary.ofFloat x).mantissa * perSecond)
      (2 ^ (-(Binary.ofFloat x).exponent).toNat)
    have hquotient := Nat.div_le_self ((Binary.ofFloat x).mantissa * perSecond)
      (2 ^ (-(Binary.ofFloat x).exponent).toNat)
    simp only [perSecond] at hround hquotient ⊢
    omega

end Duration

end Number

namespace Run

/-- The limit for jobs, if there is one, reads as a double of less than `2 ^ 64` seconds. -/
def LimitInRange (c : Configuration) : Prop :=
  ∀ value seconds, c.get? "linter_timeout" = some value → value.asFloat? = some seconds →
    seconds.isFinite = true → 0.0 < seconds → (Number.Binary.ofFloat seconds).Below (2 ^ 64)

theorem timeLimit_of_inRange {c : Configuration} (h : LimitInRange c) :
    timeLimit c ≠ .error .timeLimitTooLong := by
  unfold timeLimit
  split
  · simp
  · simp
  · next value _ hvalue =>
    split
    · next seconds hseconds =>
      split
      · next hpositive =>
        rw [Bool.and_eq_true, decide_eq_true_eq] at hpositive
        have hbelow := h value seconds hvalue hseconds hpositive.1 hpositive.2
        obtain ⟨limit, hlimit⟩ :=
          Option.isSome_iff_exists.1 (Number.Duration.isSome_ofSeconds? hbelow)
        simp [hlimit]
      · simp
    · simp

/-- A run of one job after the other fails without any job having started, or it tells of every job
that it has started and finished, and at last of a report of the lints of all jobs and of the files
that are no documents. A limit of time that is in range does not break it off. -/
theorem notifications (a : Application) (c : Configuration) (options : RunOptions) (world : World)
    (schedule : ℕ → Schedule) :
    ((∃ e, (start a c { options with concurrency := none } world schedule).result = .error e ∧
        ((start a c { options with concurrency := none } world schedule).events = [] ∨
          ∃ files, SourceFiles.located a c options world.tree = .ok files ∧
            (start a c { options with concurrency := none } world schedule).events =
              [.started files])) ∨
      ∃ (x : Setup a c { options with concurrency := none } world) (files : List Path)
          (results : List JobResult) (report : Report),
        SourceFiles.located a c options world.tree = .ok files ∧ Path.Ascending files ∧
        x.inspected.Sublist files ∧
        List.Forall₂ (Assignment.ComesTo x.settings) x.assignments results ∧
        (start a c { options with concurrency := none } world schedule).result = .ok report ∧
        (start a c { options with concurrency := none } world schedule).events =
          .started files :: (results.flatMap fun r ↦
            [.jobStarted r.job, .jobFinished r.job r.lints]) ++ [.finished report] ∧
        report.lints.Perm (results.flatMap (·.lints) ++ x.loaded.lints)) ∧
    (LimitInRange c → timeLimit c ≠ .error .timeLimitTooLong) := by
  refine ⟨?_, timeLimit_of_inRange⟩
  rcases Setup.start_cases a c { options with concurrency := none } world schedule with
    ⟨e, hresult, hevents⟩ | ⟨x, hx⟩
  · exact .inl ⟨e, hresult, .inl hevents⟩
  · obtain ⟨files, hfiles, hgathers⟩ := x.gathers
    have hpaths : x.sources.paths = files := hgathers.paths_eq hfiles
    have hs : ({ options with concurrency := none } : RunOptions).concurrency.isSome →
        ∀ count, (schedule count).Completes 0 count := fun h ↦ by cases h
    rcases x.inspect_cases hs with ⟨e, -, he⟩ | ⟨jobs, results, -, hresults, events, hrun, hevents⟩
    · rw [hx, he, hpaths]
      exact .inl ⟨e, rfl, .inr ⟨files, hfiles, rfl⟩⟩
    · rw [hevents rfl] at hrun
      rw [hx, hrun, hpaths]
      exact .inr ⟨x, files, results, x.report results, hfiles,
        SourceFiles.ascending_located hfiles, hgathers.sublist_parse a.parser, hresults, rfl, rfl,
        x.perm_lints results⟩

end Run

def oneSecond : Configuration := { Configuration.empty with fields := [("linter_timeout", .int 1)] }

def refusingLinter : Application :=
  { twoLinters with
    linters := ⟨[⟨"A", "", .empty, fun _ ↦ .ok fun _ ↦ .found [⟨.start, "A"⟩]⟩,
      ⟨"B", "", .empty, fun _ ↦ .error (.undeclaredOption "B" "x")⟩]⟩ }

def soundLint : Lint := ⟨some "A", ⟨"a.txt"⟩, .start, "A", .error, none⟩

def panicLint : Lint :=
  ⟨some "B", ⟨"a.txt"⟩, .start,
    "Error occurred while linting a.txt: linter panicked: unknown panic payload", .error,
    some (.panicked "unknown panic payload")⟩

/-- A run with a job that ends well and one that breaks off, and a run that fails as a linter cannot
be set up. -/
theorem notifications_oneSecond :
    (∃ report,
      (Run.start breakingLinter oneSecond { bothOnText with concurrency := none } emptyWorld
        Schedule.oneByOne).result = .ok report ∧
      (Run.start breakingLinter oneSecond { bothOnText with concurrency := none } emptyWorld
        Schedule.oneByOne).events =
        [.started [⟨"a.txt"⟩],
          .jobStarted ⟨⟨"a.txt"⟩, "A"⟩, .jobFinished ⟨⟨"a.txt"⟩, "A"⟩ [soundLint],
          .jobStarted ⟨⟨"a.txt"⟩, "B"⟩, .jobFinished ⟨⟨"a.txt"⟩, "B"⟩ [panicLint],
          .finished report] ∧
      report.lints.Perm [soundLint, panicLint]) ∧
    (∃ e,
      (Run.start refusingLinter oneSecond { bothOnText with concurrency := none } emptyWorld
        Schedule.oneByOne).result = .error e ∧
      (Run.start refusingLinter oneSecond { bothOnText with concurrency := none } emptyWorld
        Schedule.oneByOne).events = [.started [⟨"a.txt"⟩]]) ∧
    Run.LimitInRange oneSecond ∧ Run.timeLimit oneSecond ≠ .error .timeLimitTooLong := by
  have hlimit : Run.LimitInRange oneSecond := by
    intro value seconds hvalue hseconds _ _
    cases hvalue
    cases hseconds
    unfold Number.Binary.Below
    decide
  obtain ⟨hbreaks, hlong⟩ :=
    Run.notifications breakingLinter oneSecond bothOnText emptyWorld Schedule.oneByOne
  obtain ⟨hrefuses, -⟩ :=
    Run.notifications refusingLinter oneSecond bothOnText emptyWorld Schedule.oneByOne
  refine ⟨?_, ?_, hlimit, hlong hlimit⟩
  · obtain ⟨report, hreport, hlints⟩ : ∃ report,
        (Run.start breakingLinter oneSecond { bothOnText with concurrency := none } emptyWorld
          Schedule.oneByOne).result = .ok report ∧ report.lints.Perm [soundLint, panicLint] :=
      ⟨_, rfl, List.mergeSort_perm _ _⟩
    rcases hbreaks with ⟨e, he, -⟩ | ⟨_, _, _, _, hfiles, -, -, -, hreport', hevents, -⟩
    · cases hreport.symm.trans he
    · cases hreport.symm.trans hreport'
      cases hfiles
      have hjobs : (Run.start breakingLinter oneSecond { bothOnText with concurrency := none }
          emptyWorld Schedule.oneByOne).events.tail.dropLast =
          [.jobStarted ⟨⟨"a.txt"⟩, "A"⟩, .jobFinished ⟨⟨"a.txt"⟩, "A"⟩ [soundLint],
            .jobStarted ⟨⟨"a.txt"⟩, "B"⟩, .jobFinished ⟨⟨"a.txt"⟩, "B"⟩ [panicLint]] := rfl
      rw [hevents, List.cons_append, List.tail_cons, List.dropLast_concat] at hjobs
      rw [hjobs] at hevents
      exact ⟨report, hreport, hevents, hlints⟩
  · have herror : (Run.start refusingLinter oneSecond { bothOnText with concurrency := none }
        emptyWorld Schedule.oneByOne).result = .error (.undeclaredOption "B" "x") := rfl
    have hlength : (Run.start refusingLinter oneSecond { bothOnText with concurrency := none }
        emptyWorld Schedule.oneByOne).events.length = 1 := rfl
    rcases hrefuses with
      ⟨e, he, hevents | ⟨files, hfiles, hevents⟩⟩ | ⟨_, _, _, _, -, -, -, -, hok, -⟩
    · rw [hevents] at hlength
      cases hlength
    · cases hfiles
      exact ⟨e, he, hevents⟩
    · cases herror.symm.trans hok

end LintEngine
