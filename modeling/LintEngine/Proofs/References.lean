import LintEngine.Configuration.Resolve
import Mathlib.Data.List.Forall2

namespace LintEngine.Configuration

variable {tree : FileTree} {plugins : Plugins}

def listed (c : Configuration) (key : String) : List String :=
  match c.strings key with
  | .ok items => items
  | .error _ => []

def pluginFile? (tree : FileTree) (plugins : Plugins) (name : String) : Option Path :=
  match plugins.get name with
  | .ok plugin => plugin.configurationFile.filter tree.isFile
  | .error _ => none

theorem pluginFile?_of_get {name : String} {plugin : Plugin} (h : plugins.get name = .ok plugin) :
    pluginFile? tree plugins name = plugin.configurationFile.filter tree.isFile := by
  simp only [pluginFile?, h]

/-- The path under which a configuration looks for a file that it names: seen from the directory
that its own file is in, and as it is named if it comes from no file. -/
def lookedUp (c : Configuration) (file : String) : Path :=
  match c.path with
  | none => ⟨file⟩
  | some path =>
    match path.parent? with
    | none => ⟨file⟩
    | some directory => directory.join ⟨file⟩

theorem lookedUp_eq (c : Configuration) : c.lookedUp = fun file ↦ c.directory.join ⟨file⟩ := by
  have hempty (file : String) : (Path.mk "").join ⟨file⟩ = ⟨file⟩ := by simp [Path.join]
  funext file
  unfold lookedUp directory
  cases c.path with
  | none => exact (hempty file).symm
  | some path => cases h : path.parent? <;> simp [h, hempty]

/-- The files that a configuration refers to: first those that it names, then those of its plugins
and of the extra ones. -/
def references (tree : FileTree) (plugins : Plugins) (c : Configuration) (extra : List String) :
    List Path :=
  (c.listed extendsKey).map c.lookedUp ++
    (c.listed pluginsKey ++ extra).filterMap (pluginFile? tree plugins)

/-- A configuration lists nothing but strings as its files and plugins, and all plugins are
registered. -/
structure Readable (plugins : Plugins) (c : Configuration) (extra : List String) : Prop where
  files : c.strings extendsKey = .ok (c.listed extendsKey)
  names : c.strings pluginsKey = .ok (c.listed pluginsKey)
  registered : ∀ name ∈ c.listed pluginsKey ++ extra, ∃ plugin, plugins.get name = .ok plugin

namespace Resolution

variable {α β : Type} {r : Resolution α} {f : α → List String → Resolution β}

theorem andThen_eq_ok {b : β} : (r.andThen f).result = .ok b ↔
    ∃ a, r.result = .ok a ∧ (f a r.loaded).result = .ok b := by
  unfold andThen
  cases h : r.result <;> simp [Resolution.error]

theorem andThen_eq_error {e : Error} : (r.andThen f).result = .error e ↔
    r.result = .error e ∨ ∃ a, r.result = .ok a ∧ (f a r.loaded).result = .error e := by
  unfold andThen
  cases h : r.result <;> simp [Resolution.error]

end Resolution

open Resolution

section Parents

variable {resolveFile : Path → List String → Resolution Configuration}

def ResolvesTo (resolveFile : Path → List String → Resolution Configuration) (path : Path)
    (r : Configuration) : Prop :=
  ∃ loaded, (resolveFile path loaded).result = .ok r

def FailsWith (resolveFile : Path → List String → Resolution Configuration) (path : Path)
    (e : Error) : Prop :=
  ∃ loaded, (resolveFile path loaded).result = .error e

theorem exists_resolved {paths : List Path} {parents : List Configuration} {path : Path}
    (h : List.Forall₂ (ResolvesTo resolveFile) paths parents) (hp : path ∈ paths) :
    ∃ r, ResolvesTo resolveFile path r := by
  induction h with
  | nil => simp at hp
  | @cons _ r _ _ hr _ ih =>
    rcases List.mem_cons.1 hp with rfl | hp
    · exact ⟨r, hr⟩
    · exact ih hp

theorem forall₂_of_resolvePaths {paths : List Path} {loaded : List String}
    {parents : List Configuration}
    (h : (resolvePaths resolveFile paths loaded).result = .ok parents) :
    List.Forall₂ (ResolvesTo resolveFile) paths parents := by
  induction paths generalizing loaded parents with
  | nil =>
    simp only [resolvePaths, Resolution.ok, Except.ok.injEq] at h
    subst h
    exact .nil
  | cons path rest ih =>
    rw [resolvePaths, andThen_eq_ok] at h
    obtain ⟨parent, hparent, h⟩ := h
    rw [andThen_eq_ok] at h
    obtain ⟨more, hmore, h⟩ := h
    simp only [Resolution.ok, Except.ok.injEq] at h
    subst h
    exact .cons ⟨loaded, hparent⟩ (ih hmore)

theorem exists_of_resolvePaths_error {paths : List Path} {loaded : List String} {e : Error}
    (h : (resolvePaths resolveFile paths loaded).result = .error e) :
    ∃ path ∈ paths, FailsWith resolveFile path e := by
  induction paths generalizing loaded with
  | nil => simp [resolvePaths, Resolution.ok] at h
  | cons path rest ih =>
    rw [resolvePaths, andThen_eq_error] at h
    rcases h with h | ⟨parent, -, h⟩
    · exact ⟨path, List.mem_cons_self, loaded, h⟩
    · rw [andThen_eq_error] at h
      rcases h with h | ⟨more, -, h⟩
      · obtain ⟨p, hp, hf⟩ := ih h
        exact ⟨p, List.mem_cons_of_mem _ hp, hf⟩
      · simp [Resolution.ok] at h

theorem forall₂_of_resolvePlugins {names loaded : List String} {parents : List Configuration}
    (h : (resolvePlugins tree plugins resolveFile names loaded).result = .ok parents) :
    (∀ name ∈ names, ∃ plugin, plugins.get name = .ok plugin) ∧
    List.Forall₂ (ResolvesTo resolveFile) (names.filterMap (pluginFile? tree plugins)) parents := by
  induction names generalizing loaded parents with
  | nil =>
    simp only [resolvePlugins, Resolution.ok, Except.ok.injEq] at h
    subst h
    exact ⟨by simp, .nil⟩
  | cons name rest ih =>
    rw [resolvePlugins] at h
    cases hp : plugins.get name with
    | error e => simp [hp, Resolution.error] at h
    | ok plugin =>
      simp only [hp] at h
      cases hf : plugin.configurationFile.filter tree.isFile with
      | none =>
        simp only [hf] at h
        obtain ⟨hknown, hrest⟩ := ih h
        refine ⟨List.forall_mem_cons.2 ⟨⟨plugin, hp⟩, hknown⟩, ?_⟩
        rwa [List.filterMap_cons_none ((pluginFile?_of_get hp).trans hf)]
      | some path =>
        simp only [hf] at h
        rw [andThen_eq_ok] at h
        obtain ⟨parent, hparent, h⟩ := h
        rw [andThen_eq_ok] at h
        obtain ⟨more, hmore, h⟩ := h
        simp only [Resolution.ok, Except.ok.injEq] at h
        subst h
        obtain ⟨hknown, hrest⟩ := ih hmore
        refine ⟨List.forall_mem_cons.2 ⟨⟨plugin, hp⟩, hknown⟩, ?_⟩
        rw [List.filterMap_cons_some ((pluginFile?_of_get hp).trans hf)]
        exact .cons ⟨_, hparent⟩ hrest

theorem exists_of_resolvePlugins_error {names loaded : List String} {e : Error}
    (hn : ∀ name ∈ names, ∃ plugin, plugins.get name = .ok plugin)
    (h : (resolvePlugins tree plugins resolveFile names loaded).result = .error e) :
    ∃ path ∈ names.filterMap (pluginFile? tree plugins), FailsWith resolveFile path e := by
  induction names generalizing loaded with
  | nil => simp [resolvePlugins, Resolution.ok] at h
  | cons name rest ih =>
    obtain ⟨⟨plugin, hp⟩, hrest⟩ := List.forall_mem_cons.1 hn
    rw [resolvePlugins] at h
    simp only [hp] at h
    cases hf : plugin.configurationFile.filter tree.isFile with
    | none =>
      simp only [hf] at h
      rw [List.filterMap_cons_none ((pluginFile?_of_get hp).trans hf)]
      exact ih hrest h
    | some path =>
      simp only [hf] at h
      rw [List.filterMap_cons_some ((pluginFile?_of_get hp).trans hf)]
      rw [andThen_eq_error] at h
      rcases h with h | ⟨parent, -, h⟩
      · exact ⟨path, List.mem_cons_self, _, h⟩
      · rw [andThen_eq_error] at h
        rcases h with h | ⟨more, -, h⟩
        · obtain ⟨p, hp, hf⟩ := ih hrest h
          exact ⟨p, List.mem_cons_of_mem _ hp, hf⟩
        · simp [Resolution.ok] at h

theorem resolveWith_ok {c r : Configuration} {extra loaded : List String}
    (h : (resolveWith tree plugins resolveFile c extra loaded).result = .ok r) :
    Readable plugins c extra ∧ ∃ parents,
      List.Forall₂ (ResolvesTo resolveFile) (references tree plugins c extra) parents ∧
      r = overParents parents c.withoutDirectives := by
  unfold resolveWith at h
  split at h
  · simp [Resolution.error] at h
  · simp [Resolution.error] at h
  · next files names hfiles hnames =>
    have hf : c.listed extendsKey = files := by simp only [listed, hfiles]
    have hn : c.listed pluginsKey = names := by simp only [listed, hnames]
    rw [andThen_eq_ok] at h
    obtain ⟨parents, hparents, h⟩ := h
    rw [andThen_eq_ok] at h
    obtain ⟨more, hmore, h⟩ := h
    simp only [Resolution.ok, Except.ok.injEq] at h
    obtain ⟨hknown, hplugins⟩ := forall₂_of_resolvePlugins hmore
    refine ⟨⟨hf ▸ hfiles, hn ▸ hnames, hn ▸ hknown⟩, parents ++ more, ?_, h.symm⟩
    rw [references, lookedUp_eq, hf, hn]
    exact List.rel_append (forall₂_of_resolvePaths hparents) hplugins

theorem resolveWith_error {c : Configuration} {extra loaded : List String} {e : Error}
    (hc : Readable plugins c extra)
    (h : (resolveWith tree plugins resolveFile c extra loaded).result = .error e) :
    ∃ path ∈ references tree plugins c extra, FailsWith resolveFile path e := by
  unfold resolveWith at h
  simp only [hc.files, hc.names] at h
  rw [andThen_eq_error] at h
  rcases h with h | ⟨parents, -, h⟩
  · obtain ⟨path, hp, hf⟩ := exists_of_resolvePaths_error h
    rw [← lookedUp_eq] at hp
    exact ⟨path, List.mem_append_left _ hp, hf⟩
  · rw [andThen_eq_error] at h
    rcases h with h | ⟨more, -, h⟩
    · obtain ⟨path, hp, hf⟩ := exists_of_resolvePlugins_error hc.registered h
      exact ⟨path, List.mem_append_right _ hp, hf⟩
    · simp [Resolution.ok] at h

end Parents

/-- The components of the path that stands for a file; two spellings with the same key name the
same file. -/
def fileKey (tree : FileTree) (path : Path) : List Path.Component :=
  (chainKey tree path).components

theorem fileKey_of_locate {path : Path} {place : Place}
    (h : tree.locate .follow path = .ok place) :
    fileKey tree path = (FileTree.pathOf place).components := by
  simp [fileKey, chainKey, FileTree.canonical?, h]

theorem any_same_iff {chain : List Path} {path : Path} :
    chain.any (chainKey tree path).same = true ↔
      fileKey tree path ∈ chain.map Path.components := by
  simp only [List.any_eq_true, List.mem_map, Path.same, beq_iff_eq, fileKey]
  exact ⟨fun ⟨q, hq, h⟩ ↦ ⟨q, hq, h.symm⟩, fun ⟨q, hq, h⟩ ↦ ⟨q, hq, h.symm⟩⟩

theorem resolveFile_ok {n : ℕ} {chain : List Path} {path : Path} {r : Configuration}
    (h : ResolvesTo (resolveFile tree plugins n chain) path r) :
    ∃ m d loaded, n = m + 1 ∧ load tree path = .ok d ∧
      fileKey tree path ∉ chain.map Path.components ∧
      (resolveWith tree plugins (resolveFile tree plugins m (chain ++ [chainKey tree path])) d []
        loaded).result = .ok r := by
  obtain ⟨loaded, h⟩ := h
  cases n with
  | zero => simp [resolveFile, Resolution.error] at h
  | succ m =>
    rw [resolveFile] at h
    cases hd : load tree path with
    | error e => simp [hd, Resolution.error] at h
    | ok d =>
      simp only [hd] at h
      split at h
      · simp [Resolution.error] at h
      · next hk => exact ⟨m, d, loaded, rfl, rfl, fun hm ↦ hk (any_same_iff.2 hm), h⟩

/-- A file that can be read fails if it is on the chain already, and else only if its
configuration does. -/
theorem resolveFile_error {n : ℕ} {chain : List Path} {path : Path} {d : Configuration}
    {e : Error} (hd : load tree path = .ok d)
    (h : FailsWith (resolveFile tree plugins (n + 1) chain) path e) :
    fileKey tree path ∈ chain.map Path.components ∧
        e = .extendsCycle (chain ++ [chainKey tree path]) ∨
      fileKey tree path ∉ chain.map Path.components ∧ ∃ loaded,
        (resolveWith tree plugins (resolveFile tree plugins n (chain ++ [chainKey tree path])) d []
          loaded).result = .error e := by
  obtain ⟨loaded, h⟩ := h
  rw [resolveFile] at h
  simp only [hd] at h
  split at h
  · next hk =>
    simp only [Resolution.error, Except.error.injEq] at h
    exact .inl ⟨any_same_iff.1 hk, h.symm⟩
  · next hk => exact .inr ⟨fun hm ↦ hk (any_same_iff.2 hm), loaded, h⟩

end LintEngine.Configuration
