import LintEngine.Proofs.Components

namespace LintEngine

namespace Path

open FileTree

variable {p q rest : Path}

/-- Strips `.` off a path, and off what is left of it, until there is no `.` in front or nothing
would be left. -/
inductive StripsTo : Path → Path → Prop
  | done {p : Path} : (∀ rest, p.strip? ⟨"."⟩ = some rest → rest.text = "") → StripsTo p p
  | strip {p rest q : Path} : p.strip? ⟨"."⟩ = some rest → rest.text ≠ "" → StripsTo rest q →
      StripsTo p q

theorem components_of_strip (h : p.strip? ⟨"."⟩ = some rest) :
    p.components = .current :: rest.components := by
  have hstarts : p.startsWith ⟨"."⟩ = true := by
    by_contra hno
    rw [strip?, if_neg hno] at h
    cases h
  obtain ⟨names, hstrip, hslash, hcomponents⟩ := strip?_cases hstarts (by simp [components_current])
  cases h.symm.trans hstrip
  rw [hcomponents, components_current, components_trimmed hslash, List.singleton_append]

theorem normalize_of_strip (h : p.strip? ⟨"."⟩ = some rest) (hne : rest.text ≠ "") :
    p.normalize = rest.normalize := by
  have hrest : p.normalize = rest := by simp only [normalize, h, hne, if_false]
  rw [← hrest, normalize_normalize]

theorem normalize_of_done (h : ∀ rest, p.strip? ⟨"."⟩ = some rest → rest.text = "") :
    p.normalize = p := by
  cases hstrip : p.strip? ⟨"."⟩ with
  | none => simp only [normalize, hstrip]
  | some rest => simp only [normalize, hstrip, h rest hstrip, if_true]

theorem StripsTo.eq_normalize (h : StripsTo p q) : q = p.normalize := by
  induction h with
  | done hdone => exact (normalize_of_done hdone).symm
  | strip hstrip hne _ ih => rw [normalize_of_strip hstrip hne, ih]

theorem exists_stripsTo (p : Path) : ∃ q, StripsTo p q := by
  by_cases hdone : ∀ rest, p.strip? ⟨"."⟩ = some rest → rest.text = ""
  · exact ⟨p, .done hdone⟩
  · push Not at hdone
    obtain ⟨rest, hstrip, hne⟩ := hdone
    have hlt : rest.components.length < p.components.length := by
      rw [components_of_strip hstrip, List.length_cons]
      exact Nat.lt_succ_self _
    obtain ⟨q, hq⟩ := exists_stripsTo rest
    exact ⟨q, .strip hstrip hne hq⟩
termination_by p.components.length

theorem stripsTo_iff : StripsTo p q ↔ q = p.normalize := by
  constructor
  · exact StripsTo.eq_normalize
  · rintro rfl
    obtain ⟨q, hq⟩ := exists_stripsTo p
    rwa [← hq.eq_normalize]

theorem dropWhile_current {l : List Component} (h : Component.current ∉ l) :
    l.dropWhile (· = .current) = l := by
  cases l with
  | nil => rfl
  | cons c rest =>
    have hne : c ≠ .current := fun he ↦ h (he ▸ List.mem_cons_self)
    rw [List.dropWhile_cons_of_neg (by simpa using hne)]

theorem dropWhile_components (p : Path) :
    p.components.dropWhile (· = .current) = p.components.filter (· ≠ .current) := by
  have htail := p.current_not_mem_tail
  cases hp : p.components with
  | nil => rfl
  | cons c rest =>
    rw [hp, List.tail_cons] at htail
    by_cases hc : c = .current
    · rw [List.dropWhile_cons_of_pos (by simpa using hc), dropWhile_current htail,
        List.filter_cons_of_neg (by simpa using hc), filter_current htail]
    · rw [List.dropWhile_cons_of_neg (by simpa using hc),
        List.filter_cons_of_pos (by simpa using hc), filter_current htail]

theorem components_normalize_of_exists (h : ∃ c ∈ p.components, c ≠ .current) :
    p.normalize.components = p.components.filter (· ≠ .current) := by
  obtain ⟨c, hc, hne⟩ := h
  have hp : p.components ≠ [.current] := fun hp ↦ hne (List.mem_singleton.1 (hp ▸ hc))
  rw [components_normalize, dropCurrent_eq_filter hp]

theorem normalize_of_forall (h : ∀ c ∈ p.components, c = .current) : p.normalize = p := by
  by_cases hhead : ∃ rest, p.components = .current :: rest
  · obtain ⟨rest, hp⟩ := hhead
    have htail := p.current_not_mem_tail
    rw [hp, List.tail_cons] at htail
    rw [hp, List.forall_mem_cons] at h
    have hrest : rest = [] :=
      List.eq_nil_iff_forall_not_mem.2 fun c hc ↦ htail (h.2 c hc ▸ hc)
    obtain ⟨names, -, -, hself⟩ := normalize_of_current hp
    rw [hself, if_pos hrest]
  · rw [not_exists] at hhead
    exact normalize_of_head hhead

theorem forall_of_head_normalize (h : p.normalize.components.head? = some .current) :
    ∀ c ∈ p.normalize.components, c = .current := by
  obtain ⟨rest, hp⟩ := List.head?_eq_some_iff.1 h
  rw [hp, current_not_head_normalize hp]
  exact fun c ↦ List.mem_singleton.1

theorem components_dotSlash (h : p.isAbsolute = false) :
    (Path.mk ("./" ++ p.text)).components = .current :: p.components.filter (· ≠ .current) := by
  have hjoin : (Path.mk ".").join p = ⟨"./" ++ p.text⟩ := join_current h
  rw [← hjoin, components_join (by decide) h, components_current, List.singleton_append]

theorem normalize_dotSlash (h : p.isAbsolute = false) (hother : ∃ c ∈ p.components, c ≠ .current) :
    (Path.mk ("./" ++ p.text)).normalize.components = p.normalize.components := by
  have hdot := components_dotSlash h
  have hother' : ∃ c ∈ (Path.mk ("./" ++ p.text)).components, c ≠ .current := by
    obtain ⟨c, hc, hne⟩ := hother
    rw [hdot]
    exact ⟨c, List.mem_cons_of_mem _ (List.mem_filter.2 ⟨hc, by simpa using hne⟩), hne⟩
  have hnone : .current ∉ p.components.filter (· ≠ .current) := by simp
  rw [components_normalize_of_exists hother', hdot, List.filter_cons_of_neg (by simp),
    filter_current hnone, components_normalize_of_exists hother]

/-- Taking leading `.` components off a path ends, with what they stand in front of. -/
theorem normalize_canonical (p : Path) :
    (∀ q, StripsTo p q ↔ q = p.normalize) ∧
    p.normalize.normalize = p.normalize ∧
    ((∃ c ∈ p.components, c ≠ .current) →
      p.normalize.components = p.components.dropWhile (· = .current)) ∧
    ((∀ c ∈ p.components, c = .current) → p.normalize = p) ∧
    (p.normalize.components.head? = some .current → ∀ c ∈ p.normalize.components, c = .current) ∧
    (p.isAbsolute = true → p.normalize = p) ∧
    (p.components.head? ≠ some .current → p.normalize = p) ∧
    (p.isAbsolute = false → (∃ c ∈ p.components, c ≠ .current) →
      (Path.mk ("./" ++ p.text)).normalize.same p.normalize = true) := by
  refine ⟨fun q ↦ stripsTo_iff, normalize_normalize p, ?_, normalize_of_forall,
    forall_of_head_normalize, normalize_of_isAbsolute, ?_, ?_⟩
  · intro hother
    rw [components_normalize_of_exists hother, dropWhile_components]
  · intro hhead
    exact normalize_of_head fun rest hp ↦ hhead (by rw [hp]; rfl)
  · intro hrelative hother
    rw [same, beq_iff_eq]
    exact normalize_dotSlash hrelative hother

theorem normalize_canonical_upwards :
    StripsTo ⟨"././..//a/"⟩ ⟨"..//a"⟩ ∧
    (∃ c ∈ (Path.mk "././..//a/").components, c ≠ .current) ∧
    (Path.mk "././..//a/").normalize.components = [.parent, .name "a"] ∧
    (Path.mk ("./" ++ "..//a/")).normalize.same (Path.mk "..//a/").normalize = true ∧
    (Path.mk "./.").normalize = ⟨"./."⟩ := by
  obtain ⟨hstrips, -, hdrop, -, -, -, -, -⟩ := normalize_canonical ⟨"././..//a/"⟩
  obtain ⟨-, -, -, -, -, -, -, hslash⟩ := normalize_canonical ⟨"..//a/"⟩
  obtain ⟨-, -, -, honly, -, -, -, -⟩ := normalize_canonical ⟨"./."⟩
  have hcomponents : (Path.mk "././..//a/").components = [.current, .parent, .name "a"] := rfl
  have hother : ∃ c ∈ (Path.mk "././..//a/").components, c ≠ .current :=
    ⟨.parent, by rw [hcomponents]; decide, by decide⟩
  have hparent : .parent ∈ (Path.mk "..//a/").components := by decide
  have hcurrent : (Path.mk "./.").components = [.current] := rfl
  refine ⟨(hstrips _).2 rfl, hother, (hdrop hother).trans rfl,
    hslash rfl ⟨.parent, hparent, by decide⟩, honly ?_⟩
  rw [hcurrent]
  exact fun c ↦ List.mem_singleton.1

end Path

end LintEngine
