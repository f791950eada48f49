import LintEngine.Proofs.Jobs

namespace LintEngine

namespace Instance

variable {i j : Instance} {document : Document}

def runAll (i : Instance) : List Document → List (Except Exception (List Lint))
  | [] => []
  | document :: rest => (i.run document).1 :: (i.run document).2.runAll rest

def fresh (i : Instance) : Instance := { i with pending := [] }

theorem run_of_fresh_eq (h : i.fresh = j.fresh) (document : Document) :
    i.run document = j.run document := by
  have hi : i.run document = i.fresh.run document := rfl
  have hj : j.run document = j.fresh.run document := rfl
  rw [hi, h, hj]

theorem fresh_run (i : Instance) (document : Document) : (i.run document).2.fresh = i.fresh := by
  simp only [run, foldl_report]
  split <;> rfl

theorem runAll_of_fresh_eq (h : i.fresh = j.fresh) (documents : List Document) :
    i.runAll documents = documents.map fun document ↦ (j.run document).1 := by
  induction documents generalizing i with
  | nil => rfl
  | cons document rest ih =>
    rw [runAll, List.map_cons, run_of_fresh_eq h, ih (fresh_run j document)]

theorem run_eq_ok_iff {lints : List Lint} :
    (i.run document).1 = .ok lints ↔
      (i.scan document).ending = .done ∧
        lints = (i.scan document).findings.map (i.lint document) := by
  constructor
  · intro h
    by_cases hdone : (i.scan document).ending = .done
    · rw [run_of_done hdone, Except.ok.injEq] at h
      exact ⟨hdone, h.symm⟩
    · obtain ⟨e, he⟩ := run_of_not_done hdone
      rw [he] at h
      cases h
  · rintro ⟨hdone, rfl⟩
    exact run_of_done hdone

/-- Whatever the runs before came to, a run comes to the same as that of a linter that was just set
up, and it hands out the lints of its own document only. -/
theorem getElem?_runAll (d : Descriptor) (settings : Settings) (i : Instance)
    (hi : d.instantiate settings = .ok i) (documents : List Document) :
    (i.runAll documents).length = documents.length ∧
    ∀ (k : ℕ) (document : Document), documents[k]? = some document →
      ∀ j, d.instantiate settings = .ok j →
        (i.runAll documents)[k]? = some (j.run document).1 ∧
        ∀ lints : List Lint, (i.runAll documents)[k]? = some (.ok lints) ↔
          (j.scan document).ending = .done ∧
          lints = (j.scan document).findings.map (j.lint document) := by
  refine ⟨by rw [runAll_of_fresh_eq rfl, List.length_map], ?_⟩
  intro k document hdocument j hj
  have hfresh : i.fresh = j.fresh := congrArg fresh (Except.ok.inj (hi.symm.trans hj))
  have hresult : (i.runAll documents)[k]? = some (j.run document).1 := by
    rw [runAll_of_fresh_eq hfresh, List.getElem?_map, hdocument, Option.map_some]
  refine ⟨hresult, ?_⟩
  intro lints
  rw [hresult, Option.some_inj, run_eq_ok_iff]

def moody : Descriptor :=
  ⟨"Moody", "", .empty, fun _ ↦ .ok fun document ↦
    ⟨[⟨.start, document.source⟩],
      if document.source = "a" then .failed "no"
      else if document.source = "b" then .panicked none
      else .done, 0⟩⟩

def moodySettings : Settings := ⟨"Moody", true, .warning, none, [], []⟩

theorem getElem?_runAll_moody :
    ∃ i, moody.instantiate moodySettings = .ok i ∧
      (i.run (.ofSource "a" none)).2.pending.length = 1 ∧
      ((i.run (.ofSource "a" none)).2.run (.ofSource "b" none)).2.pending.length = 1 ∧
      (i.runAll [.ofSource "a" none, .ofSource "b" none, .ofSource "c" none])[2]? =
        some (.ok [i.lint (.ofSource "c" none) ⟨.start, "c"⟩]) := by
  refine ⟨_, rfl, rfl, rfl, ?_⟩
  obtain ⟨-, hruns⟩ := getElem?_runAll moody moodySettings _ rfl
    [.ofSource "a" none, .ofSource "b" none, .ofSource "c" none]
  exact ((hruns 2 _ rfl _ rfl).2 _).2 ⟨rfl, rfl⟩

end Instance

end LintEngine
