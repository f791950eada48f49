import LintEngine.Proofs.Activation
import LintEngine.Proofs.Result
import Mathlib.Data.List.Nodup

namespace LintEngine

namespace Registry

variable {r r' : Registry} {d : Descriptor}

theorem nodup_names_register (hr : r.names.Nodup) (h : r.register d = .ok r') :
    r'.names.Nodup := by
  unfold register at h
  split at h
  · cases h
  · next hnew =>
    cases h
    have hd : d.name ∉ r.names := fun hmem ↦ hnew (contains_iff.2 hmem)
    have hnames : (Registry.mk (r.linters ++ [d])).names = r.names ++ [d.name] := by simp [names]
    rw [hnames, List.nodup_append]
    exact ⟨hr, List.nodup_singleton _, by grind⟩

theorem nodup_names_registerAll (hr : r.names.Nodup) (ds : List Descriptor) :
    (r.registerAll ds).1.names.Nodup := by
  induction ds generalizing r with
  | nil => exact hr
  | cons d rest ih =>
    rw [registerAll]
    split
    · next hd => exact ih (nodup_names_register hr hd)
    · exact hr

theorem nodup_names_foldlM {ds : List Descriptor} (hr : r.names.Nodup)
    (h : ds.foldlM register r = .ok r') : r'.names.Nodup := by
  induction ds generalizing r with
  | nil =>
    cases h
    exact hr
  | cons d rest ih =>
    rw [List.foldlM_cons, Result.bind_eq_ok] at h
    obtain ⟨next, hnext, h⟩ := h
    exact ih (nodup_names_register hr hnext) h

end Registry

theorem Plugin.nodup_names_registerLinters {r : Registry} (hr : r.names.Nodup) (p : Plugin) :
    (p.registerLinters r).1.names.Nodup := by
  unfold registerLinters
  split
  · exact Registry.nodup_names_registerAll hr _
  · exact hr

namespace Application

variable {a b start : Application} {name : String} {names : List String} {tree : FileTree}
  {options : RunOptions} {directory : Path}

def Grows (a b : Application) : Prop := ∃ names ds, b = a.extend names ds

theorem Grows.refl (a : Application) : a.Grows a := ⟨[], [], a.extend_nil.symm⟩

theorem Grows.trans {c : Application} (hab : a.Grows b) (hbc : b.Grows c) : a.Grows c := by
  obtain ⟨names, ds, rfl⟩ := hab
  obtain ⟨names', ds', rfl⟩ := hbc
  exact ⟨names ++ names', ds ++ ds', extend_extend a names names' ds ds'⟩

theorem Grows.plugins_eq (h : a.Grows b) : b.plugins = a.plugins := by
  obtain ⟨names, ds, rfl⟩ := h
  rfl

theorem Grows.ownConfiguration_eq (h : a.Grows b) :
    b.ownConfiguration tree options directory = a.ownConfiguration tree options directory := by
  obtain ⟨names, ds, rfl⟩ := h
  rfl

theorem Grows.linters_prefix (h : a.Grows b) : a.linters.linters <+: b.linters.linters := by
  obtain ⟨names, ds, rfl⟩ := h
  exact List.prefix_append _ _

theorem Grows.activated_subset (h : a.Grows b) : a.activated ⊆ b.activated := by
  obtain ⟨names, ds, rfl⟩ := h
  exact List.subset_append_left _ _

/-- Names are listed once, and every active plugin is known and has all its linters registered. -/
structure Consistent (a : Application) : Prop where
  linters_nodup : a.linters.names.Nodup
  activated_nodup : a.activated.Nodup
  registered : ∀ name ∈ a.activated, ∃ plugin ds, a.plugins.get name = .ok plugin ∧
    plugin.linters = .ok ds ∧ ∀ d ∈ ds, d ∈ a.linters.linters

/-- What activating a plugin can do: nothing, register all its linters and make it active, or
register some of them. -/
theorem activate_cases (a : Application) (name : String) :
    (a.activate name).1 = a ∨
    ∃ plugin ds, name ∉ a.activated ∧ a.plugins.get name = .ok plugin ∧
      (a.activate name).1.linters = (plugin.registerLinters a.linters).1 ∧
      ((a.activate name).1 = a.extend [name] ds ∧ plugin.linters = .ok ds ∨
        (a.activate name).1 = a.extend [] ds) := by
  unfold activate
  split
  · exact .inl rfl
  · next hnew =>
    have hnew : name ∉ a.activated := by simpa using hnew
    split
    · exact .inl rfl
    · next plugin hget =>
      split
      · next linters hregister =>
        obtain ⟨ds, hds, hlinters⟩ := Plugin.registerLinters_eq_ok hregister
        refine .inr ⟨plugin, ds, hnew, hget, by rw [hregister], .inl ⟨?_, hds⟩⟩
        simp [extend, ← hlinters]
      · next linters e hregister =>
        obtain ⟨part, hlinters, -⟩ := Plugin.registerLinters_eq_error hregister
        refine .inr ⟨plugin, part, hnew, hget, by rw [hregister], .inr ?_⟩
        simp [extend, ← hlinters]

theorem grows_activate (a : Application) (name : String) : a.Grows (a.activate name).1 := by
  obtain h | ⟨plugin, ds, -, -, -, ⟨h, -⟩ | h⟩ := a.activate_cases name
  · rw [h]
    exact .refl a
  · exact ⟨[name], ds, h⟩
  · exact ⟨[], ds, h⟩

theorem Consistent.activate (h : a.Consistent) (name : String) :
    (a.activate name).1.Consistent := by
  obtain hsame | ⟨plugin, ds, hnew, hget, hlinters, hcases⟩ := a.activate_cases name
  · rw [hsame]
    exact h
  · have hnodup : (a.activate name).1.linters.names.Nodup := by
      rw [hlinters]
      exact plugin.nodup_names_registerLinters h.linters_nodup
    -- What was registered for an active plugin stays where it is.
    have hold : ∀ other ∈ a.activated, ∃ plugin ds', a.plugins.get other = .ok plugin ∧
        plugin.linters = .ok ds' ∧ ∀ d ∈ ds', d ∈ a.linters.linters ++ ds := by
      intro other ho
      obtain ⟨plugin, ds', hget, hds', hmem⟩ := h.registered other ho
      exact ⟨plugin, ds', hget, hds', fun d hd ↦ List.mem_append_left ds (hmem d hd)⟩
    obtain ⟨hext, hds⟩ | hext := hcases
    · rw [hext] at hnodup ⊢
      refine ⟨hnodup, List.nodup_append.2 ⟨h.activated_nodup, List.nodup_singleton _, by grind⟩, ?_⟩
      intro other ho
      rcases List.mem_append.1 ho with ho | ho
      · exact hold other ho
      · rw [List.mem_singleton.1 ho]
        exact ⟨plugin, ds, hget, hds, fun d hd ↦ List.mem_append_right _ hd⟩
    · rw [hext] at hnodup ⊢
      refine ⟨hnodup, by simpa [extend] using h.activated_nodup, fun other ho ↦ ?_⟩
      exact hold other (by simpa [extend] using ho)

theorem grows_activateAll (a : Application) (names : List String) :
    a.Grows (a.activateAll names).1 := by
  induction names generalizing a with
  | nil => exact .refl a
  | cons name rest ih =>
    have hname := a.grows_activate name
    rw [activateAll]
    split
    · next b hb =>
      rw [hb] at hname
      exact hname.trans (ih b)
    · next b e hb => rwa [hb] at hname

theorem Consistent.activateAll (h : a.Consistent) (names : List String) :
    (a.activateAll names).1.Consistent := by
  induction names generalizing a with
  | nil => exact h
  | cons name rest ih =>
    have hname := h.activate name
    rw [Application.activateAll]
    split
    · next b hb =>
      rw [hb] at hname
      exact ih hname
    · next b e hb => rwa [hb] at hname

theorem activateAll_of_active (h : ∀ name ∈ names, name ∈ a.activated) :
    a.activateAll names = (a, .ok ()) := by
  induction names with
  | nil => rfl
  | cons name rest ih =>
    rw [List.forall_mem_cons] at h
    have hactive : a.activate name = (a, .ok ()) := by simp [activate, h.1]
    rw [activateAll, hactive]
    exact ih h.2

theorem mem_activated_of_activate (h : a.activate name = (b, .ok ())) : name ∈ b.activated := by
  rw [activate_eq_ok h]
  by_cases hactive : name ∈ a.activated
  · exact List.mem_append_left _ hactive
  · simp [extend, inactive, hactive]

theorem active_of_activateAll (h : a.activateAll names = (b, .ok ())) :
    ∀ name ∈ names, name ∈ b.activated := by
  induction names generalizing a with
  | nil => simp
  | cons name rest ih =>
    rw [activateAll] at h
    split at h
    · next c hc =>
      have hgrows := c.grows_activateAll rest
      rw [h] at hgrows
      exact List.forall_mem_cons.2
        ⟨hgrows.activated_subset (mem_activated_of_activate hc), ih h⟩
    · cases h

theorem loadConfiguration_fst (a : Application) (tree : FileTree) (options : RunOptions)
    (directory : Path) :
    (a.loadConfiguration tree options directory).1 = a ∨
      ∃ names, (a.loadConfiguration tree options directory).1 = (a.activateAll names).1 := by
  unfold loadConfiguration
  split
  · exact .inl rfl
  · next own _ =>
    dsimp only
    split
    · exact .inl rfl
    · refine .inr ⟨(own.resolve tree a.plugins options.plugins).loaded, ?_⟩
      split
      · next b hb => rw [hb]
      · next b e hb => rw [hb]

theorem grows_loadConfiguration (a : Application) (tree : FileTree) (options : RunOptions)
    (directory : Path) : a.Grows (a.loadConfiguration tree options directory).1 := by
  obtain h | ⟨names, h⟩ := a.loadConfiguration_fst tree options directory
  · rw [h]
    exact .refl a
  · rw [h]
    exact a.grows_activateAll names

theorem Consistent.loadConfiguration (h : a.Consistent) (tree : FileTree) (options : RunOptions)
    (directory : Path) : (a.loadConfiguration tree options directory).1.Consistent := by
  obtain hsame | ⟨names, hall⟩ := a.loadConfiguration_fst tree options directory
  · rw [hsame]
    exact h
  · rw [hall]
    exact h.activateAll names

theorem loadConfiguration_eq_ok {c : Configuration} :
    a.loadConfiguration tree options directory = (b, .ok c) ↔
      ∃ own resolved, a.ownConfiguration tree options directory = .ok own ∧
        (own.resolve tree a.plugins options.plugins).result = .ok resolved ∧
        a.activateAll (own.resolve tree a.plugins options.plugins).loaded = (b, .ok ()) ∧
        c = b.base.merge resolved := by
  constructor
  · intro h
    unfold loadConfiguration at h
    split at h
    · cases h
    · next own hown =>
      dsimp only at h
      split at h
      · cases h
      · next resolved hresolved =>
        split at h
        · next b' hb =>
          cases h
          exact ⟨own, resolved, hown, hresolved, hb, rfl⟩
        · cases h
  · rintro ⟨own, resolved, hown, hresolved, hall, rfl⟩
    simp only [loadConfiguration, hown, hresolved, hall]

theorem consistent_build {draft : ApplicationDraft} (h : draft.build = .ok a) : a.Consistent := by
  simp only [ApplicationDraft.build, Result.bind_eq_ok] at h
  obtain ⟨linters, hlinters, plugins, -, _, -, _, -, _, -, _, -, _, -, h⟩ := h
  cases h
  have hempty : Registry.empty.names.Nodup := List.nodup_nil
  exact ⟨Registry.nodup_names_foldlM hempty hlinters, List.nodup_nil, by simp⟩

/-- `start.Becomes a`: loading configurations any number of times, whether that succeeds or fails,
makes `a` of `start`. -/
inductive Becomes (start : Application) : Application → Prop
  | refl : Becomes start start
  | load {a : Application} (tree : FileTree) (options : RunOptions) (directory : Path) :
      Becomes start a → Becomes start (a.loadConfiguration tree options directory).1

theorem Becomes.grows (h : start.Becomes a) : start.Grows a := by
  induction h with
  | refl => exact .refl start
  | load tree options directory _ ih => exact ih.trans (grows_loadConfiguration _ _ _ _)

theorem Becomes.consistent (h : start.Becomes a) (hstart : start.Consistent) : a.Consistent := by
  induction h with
  | refl => exact hstart
  | load tree options directory _ ih => exact ih.loadConfiguration _ _ _

theorem loadConfiguration_of_active {own c : Configuration}
    (hown : a.ownConfiguration tree options directory = .ok own)
    (hresolve : (own.resolve tree a.plugins options.plugins).result = .ok c)
    (hactive : ∀ name ∈ (own.resolve tree a.plugins options.plugins).loaded,
      name ∈ a.activated) :
    a.loadConfiguration tree options directory = (a, .ok (a.base.merge c)) :=
  loadConfiguration_eq_ok.2 ⟨own, c, hown, hresolve, activateAll_of_active hactive, rfl⟩

theorem loadConfiguration_again {c : Configuration}
    (h : a.loadConfiguration tree options directory = (b, .ok c)) :
    ∃ own, b.ownConfiguration tree options directory = .ok own ∧
      (∀ name ∈ (own.resolve tree b.plugins options.plugins).loaded, name ∈ b.activated) ∧
      b.loadConfiguration tree options directory = (b, .ok c) := by
  have hgrows := a.grows_loadConfiguration tree options directory
  rw [h] at hgrows
  obtain ⟨own, resolved, hown, hresolve, hall, rfl⟩ := loadConfiguration_eq_ok.1 h
  rw [← hgrows.plugins_eq] at hresolve hall
  have hactive := active_of_activateAll hall
  rw [← hgrows.ownConfiguration_eq] at hown
  exact ⟨own, hown, hactive, loadConfiguration_of_active hown hresolve hactive⟩

/-- Whatever has been loaded since an application was built, with success or without: no linter and
no active plugin is listed twice, the linters that it was built with are still there and in their
places, and every active plugin is registered and has brought all its linters. A load for which all
plugins are active changes nothing; and a load that has succeeded does so again, with the same
result and without a change. -/
theorem registry_invariant {draft : ApplicationDraft} (hbuild : draft.build = .ok start)
    (h : start.Becomes a) :
    a.linters.names.Nodup ∧ start.linters.linters <+: a.linters.linters ∧
    a.activated.Nodup ∧ a.plugins = start.plugins ∧
    (∀ name ∈ a.activated, ∃ plugin ds, a.plugins.get name = .ok plugin ∧
      plugin.linters = .ok ds ∧ ∀ d ∈ ds, d ∈ a.linters.linters) ∧
    (∀ tree options directory own c, a.ownConfiguration tree options directory = .ok own →
      (own.resolve tree a.plugins options.plugins).result = .ok c →
      (∀ name ∈ (own.resolve tree a.plugins options.plugins).loaded, name ∈ a.activated) →
      a.loadConfiguration tree options directory = (a, .ok (a.base.merge c))) ∧
    ∀ tree options directory b c, a.loadConfiguration tree options directory = (b, .ok c) →
      ∃ own, b.ownConfiguration tree options directory = .ok own ∧
        (∀ name ∈ (own.resolve tree b.plugins options.plugins).loaded, name ∈ b.activated) ∧
        b.loadConfiguration tree options directory = (b, .ok c) := by
  have hgrows := h.grows
  have hconsistent := h.consistent (consistent_build hbuild)
  refine ⟨hconsistent.linters_nodup, hgrows.linters_prefix, hconsistent.activated_nodup,
    hgrows.plugins_eq, hconsistent.registered, ?_, ?_⟩
  · intro tree options directory own c hown hresolve hactive
    exact loadConfiguration_of_active hown hresolve hactive
  · intro tree options directory b c hload
    exact loadConfiguration_again hload

def afterClash : Application := (clashingApplication.loadConfiguration ⟨[], []⟩ bothPlugins ⟨""⟩).1

def firstPlugin : RunOptions := { RunOptions.none with plugins := ["p"] }

theorem registry_invariant_clash :
    clashing.build = .ok clashingApplication ∧ clashingApplication.Becomes afterClash ∧
    afterClash.linters.names = ["A", "B", "C"] ∧ afterClash.linters.names.Nodup ∧
    clashingApplication.linters.linters <+: afterClash.linters.linters ∧
    (∃ plugin ds, afterClash.plugins.get "p" = .ok plugin ∧ plugin.linters = .ok ds ∧
      ∀ d ∈ ds, d ∈ afterClash.linters.linters) ∧
    ∃ c, afterClash.loadConfiguration ⟨[], []⟩ firstPlugin ⟨""⟩ = (afterClash, .ok c) := by
  have hbuild : clashing.build = .ok clashingApplication := rfl
  have hbecomes : clashingApplication.Becomes afterClash := .load _ _ _ .refl
  obtain ⟨hnodup, hprefix, -, -, hregistered, hactive, -⟩ := registry_invariant hbuild hbecomes
  have hload := hactive ⟨[], []⟩ firstPlugin ⟨""⟩ .empty _ rfl rfl (fun name hname ↦ hname)
  exact ⟨hbuild, hbecomes, rfl, hnodup, hprefix, hregistered "p" List.mem_cons_self, _, hload⟩

end Application

end LintEngine
