import LintEngine.Application
import LintEngine.Proofs.References

namespace LintEngine

variable {tree : FileTree} {plugins : Plugins}

namespace Configuration

open Resolution

section Loaded

variable {P : List String → Prop} {α β : Type}

theorem Resolution.andThen_loaded {r : Resolution α} {f : α → List String → Resolution β}
    (hr : P r.loaded) (hf : ∀ a loaded, P loaded → P (f a loaded).loaded) :
    P (r.andThen f).loaded := by
  unfold andThen
  split
  · exact hf _ _ hr
  · exact hr

variable {resolveFile : Path → List String → Resolution Configuration}

theorem resolvePaths_loaded (hfile : ∀ path loaded, P loaded → P (resolveFile path loaded).loaded)
    (paths : List Path) {loaded : List String} (h : P loaded) :
    P (resolvePaths resolveFile paths loaded).loaded := by
  induction paths generalizing loaded with
  | nil => exact h
  | cons path rest ih =>
    exact andThen_loaded (hfile path loaded h) fun _ _ h ↦ andThen_loaded (ih h) fun _ _ h ↦ h

theorem resolvePlugins_loaded
    (hnote : ∀ loaded name plugin, plugins.get name = .ok plugin → P loaded →
      P (noteLoaded loaded name))
    (hfile : ∀ path loaded, P loaded → P (resolveFile path loaded).loaded)
    (names : List String) {loaded : List String} (h : P loaded) :
    P (resolvePlugins tree plugins resolveFile names loaded).loaded := by
  induction names generalizing loaded with
  | nil => exact h
  | cons name rest ih =>
    rw [resolvePlugins]
    split
    · exact h
    · next plugin hplugin =>
      have hnoted := hnote loaded name plugin hplugin h
      dsimp only
      split
      · exact ih hnoted
      · exact andThen_loaded (hfile _ _ hnoted) fun _ _ h ↦ andThen_loaded (ih h) fun _ _ h ↦ h

theorem resolveWith_loaded
    (hnote : ∀ loaded name plugin, plugins.get name = .ok plugin → P loaded →
      P (noteLoaded loaded name))
    (hfile : ∀ path loaded, P loaded → P (resolveFile path loaded).loaded)
    (c : Configuration) (extra : List String) {loaded : List String} (h : P loaded) :
    P (resolveWith tree plugins resolveFile c extra loaded).loaded := by
  unfold resolveWith
  split
  · exact h
  · exact h
  · exact andThen_loaded (resolvePaths_loaded hfile _ h) fun _ _ h ↦
      andThen_loaded (resolvePlugins_loaded hnote hfile _ h) fun _ _ h ↦ h

theorem resolveFile_loaded
    (hnote : ∀ loaded name plugin, plugins.get name = .ok plugin → P loaded →
      P (noteLoaded loaded name))
    (n : ℕ) (chain : List Path) (path : Path) {loaded : List String} (h : P loaded) :
    P (Configuration.resolveFile tree plugins n chain path loaded).loaded := by
  induction n generalizing chain path loaded with
  | zero => exact h
  | succ n ih =>
    rw [Configuration.resolveFile]
    split
    · exact h
    · dsimp only
      split
      · exact h
      · exact resolveWith_loaded hnote (fun path _ h ↦ ih _ path h) _ _ h

theorem resolve_loaded (tree : FileTree) (plugins : Plugins) (c : Configuration)
    (extra : List String) :
    (c.resolve tree plugins extra).loaded.Nodup ∧
      ∀ name ∈ (c.resolve tree plugins extra).loaded, ∃ plugin, plugins.get name = .ok plugin := by
  let P : List String → Prop := fun loaded ↦
    loaded.Nodup ∧ ∀ name ∈ loaded, ∃ plugin, plugins.get name = .ok plugin
  have hnote : ∀ loaded name plugin, plugins.get name = .ok plugin → P loaded →
      P (noteLoaded loaded name) := by
    rintro loaded name plugin hplugin ⟨hnodup, hget⟩
    unfold noteLoaded
    split
    · exact ⟨hnodup, hget⟩
    · next hnew =>
      refine ⟨?_, ?_⟩
      · have hnew : name ∉ loaded := by simpa using hnew
        exact List.nodup_append.2 ⟨hnodup, by simp, by grind⟩
      · intro other ho
        rcases List.mem_append.1 ho with ho | ho
        · exact hget other ho
        · exact ⟨plugin, List.mem_singleton.1 ho ▸ hplugin⟩
  exact resolveWith_loaded hnote (fun path _ h ↦ resolveFile_loaded hnote _ _ path h) c extra
    (P := P) ⟨List.nodup_nil, by simp⟩

end Loaded

end Configuration

namespace Registry

variable {r r' : Registry} {ds : List Descriptor} {e : Error}

theorem contains_iff {name : String} : r.contains name = true ↔ name ∈ r.names := by
  simp [contains, get?, names]

theorem registerAll_eq_ok (h : r.registerAll ds = (r', .ok ())) :
    r'.linters = r.linters ++ ds := by
  induction ds generalizing r with
  | nil =>
    cases h
    simp
  | cons d rest ih =>
    rw [registerAll, register] at h
    split at h
    · next hd =>
      split at hd <;> cases hd
      rw [ih h, List.append_assoc, List.singleton_append]
    · cases h

theorem registerAll_eq_error (h : r.registerAll ds = (r', .error e)) :
    ∃ part d more, ds = part ++ d :: more ∧ r'.linters = r.linters ++ part ∧
      d.name ∈ r'.names ∧ e = .repeatedLinter d.name := by
  induction ds generalizing r with
  | nil => cases h
  | cons d rest ih =>
    rw [registerAll, register] at h
    split at h
    · next hd =>
      split at hd <;> cases hd
      obtain ⟨part, d', more, hrest, hlinters, htaken, he⟩ := ih h
      refine ⟨d :: part, d', more, ?_, ?_, htaken, he⟩
      · rw [hrest, List.cons_append]
      · rw [hlinters, List.append_assoc, List.singleton_append]
    · next hd =>
      split at hd
      · next htaken =>
        cases hd
        cases h
        exact ⟨[], d, rest, rfl, by simp, contains_iff.1 htaken, rfl⟩
      · cases hd

end Registry

namespace Plugins

def lintersOf (ps : Plugins) (name : String) : List Descriptor :=
  match ps.get name with
  | .ok plugin =>
    match plugin.linters with
    | .ok ds => ds
    | .error _ => []
  | .error _ => []

theorem lintersOf_eq {ps : Plugins} {name : String} {plugin : Plugin} {ds : List Descriptor}
    (hget : ps.get name = .ok plugin) (hds : plugin.linters = .ok ds) :
    ps.lintersOf name = ds := by
  simp only [lintersOf, hget, hds]

end Plugins

/-- A plugin brings `part` of its linters to a registry and then fails: it cannot describe its
linters at all, or the name of the next one is taken. -/
inductive Plugin.BreaksOff (plugin : Plugin) (after : Registry) : List Descriptor → Error → Prop
  | indescribable {e : Error} : plugin.linters = .error e → plugin.BreaksOff after [] e
  | clash {part more : List Descriptor} {d : Descriptor} :
      plugin.linters = .ok (part ++ d :: more) → d.name ∈ after.names →
      plugin.BreaksOff after part (.repeatedLinter d.name)

theorem Plugin.registerLinters_eq_ok {plugin : Plugin} {r r' : Registry}
    (h : plugin.registerLinters r = (r', .ok ())) :
    ∃ ds, plugin.linters = .ok ds ∧ r'.linters = r.linters ++ ds := by
  unfold registerLinters at h
  split at h
  · next ds hds => exact ⟨ds, hds, Registry.registerAll_eq_ok h⟩
  · cases h

theorem Plugin.registerLinters_eq_error {plugin : Plugin} {r r' : Registry} {e : Error}
    (h : plugin.registerLinters r = (r', .error e)) :
    ∃ part, r'.linters = r.linters ++ part ∧ plugin.BreaksOff r' part e := by
  unfold registerLinters at h
  split at h
  · next ds hds =>
    obtain ⟨part, d, more, rfl, hlinters, htaken, rfl⟩ := Registry.registerAll_eq_error h
    exact ⟨part, hlinters, .clash hds htaken⟩
  · next hds =>
    cases h
    exact ⟨[], by simp, .indescribable hds⟩

namespace Application

variable {a b : Application} {name : String} {names : List String} {e : Error}

def inactive (a : Application) (names : List String) : List String :=
  names.filter fun name ↦ !a.activated.contains name

def extend (a : Application) (names : List String) (ds : List Descriptor) : Application :=
  { a with linters := ⟨a.linters.linters ++ ds⟩, activated := a.activated ++ names }

theorem extend_nil (a : Application) : a.extend [] [] = a := by
  simp [extend]

theorem extend_extend (a : Application) (names more : List String) (ds ds' : List Descriptor) :
    (a.extend names ds).extend more ds' = a.extend (names ++ more) (ds ++ ds') := by
  simp [extend]

theorem activate_eq_ok (h : a.activate name = (b, .ok ())) :
    b = a.extend (a.inactive [name]) ((a.inactive [name]).flatMap a.plugins.lintersOf) := by
  unfold activate at h
  split at h
  · next hactive =>
    cases h
    have hinactive : a.inactive [name] = [] := by simpa [inactive] using hactive
    rw [hinactive, List.flatMap_nil, extend_nil]
  · next hnew =>
    have hinactive : a.inactive [name] = [name] := by simpa [inactive] using hnew
    split at h
    · cases h
    · next plugin hget =>
      split at h
      · next linters hregister =>
        cases h
        obtain ⟨ds, hds, hlinters⟩ := Plugin.registerLinters_eq_ok hregister
        simp [hinactive, extend, Plugins.lintersOf_eq hget hds, ← hlinters]
      · cases h

theorem activate_eq_error (h : a.activate name = (b, .error e))
    (hname : ∃ plugin, a.plugins.get name = .ok plugin) :
    name ∉ a.activated ∧ ∃ plugin part, a.plugins.get name = .ok plugin ∧
      b = a.extend [] part ∧ plugin.BreaksOff b.linters part e := by
  obtain ⟨plugin, hget⟩ := hname
  unfold activate at h
  split at h
  · cases h
  · next hnew =>
    rw [hget] at h
    dsimp only at h
    split at h
    · cases h
    · next linters e' hregister =>
      cases h
      obtain ⟨part, hlinters, hbreaks⟩ := Plugin.registerLinters_eq_error hregister
      refine ⟨by simpa using hnew, plugin, part, hget, ?_, hbreaks⟩
      simp [extend, ← hlinters]

theorem inactive_cons (a : Application) (name : String) (rest : List String) :
    a.inactive (name :: rest) = a.inactive [name] ++ a.inactive rest :=
  List.filter_append [name] rest

theorem inactive_extend {rest : List String} (hname : name ∉ rest) (ds : List Descriptor) :
    (a.extend (a.inactive [name]) ds).inactive rest = a.inactive rest := by
  refine List.filter_congr fun other ho ↦ ?_
  have hne : other ≠ name := fun h ↦ hname (h ▸ ho)
  simp [extend, inactive, hne]

/-- Where one of a list of plugins breaks off, those before it are active, and nothing but the
linters that it got through remains of it. -/
theorem activateAll_eq_error (hnodup : names.Nodup)
    (hnames : ∀ name ∈ names, ∃ plugin, a.plugins.get name = .ok plugin)
    (h : a.activateAll names = (b, .error e)) :
    ∃ before failing rest plugin part, names = before ++ failing :: rest ∧
      failing ∉ a.activated ∧ a.plugins.get failing = .ok plugin ∧
      b = a.extend (a.inactive before) ((a.inactive before).flatMap a.plugins.lintersOf ++ part) ∧
      plugin.BreaksOff b.linters part e := by
  -- The application changes along the list, but neither its plugins nor which names of the rest are
  -- active, since no name comes twice.
  induction names generalizing a with
  | nil => cases h
  | cons name rest ih =>
    rw [List.nodup_cons] at hnodup
    rw [List.forall_mem_cons] at hnames
    rw [activateAll] at h
    split at h
    · next next hnext =>
      obtain rfl := activate_eq_ok hnext
      obtain ⟨before, failing, more, plugin, part, rfl, hnew, hget, hb, hbreaks⟩ :=
        ih (a := a.extend _ _) hnodup.2 hnames.2 h
      have hbefore : name ∉ before := fun hmem ↦ hnodup.1 (List.mem_append_left _ hmem)
      refine ⟨name :: before, failing, more, plugin, part, rfl, ?_, hget, ?_, hbreaks⟩
      · exact fun hactive ↦ hnew (List.mem_append_left _ hactive)
      · rw [hb, inactive_extend hbefore, extend_extend, inactive_cons a name before,
          List.flatMap_append, List.append_assoc]
        rfl
    · next next e' hnext =>
      cases h
      obtain ⟨hnew, plugin, part, hget, hb, hbreaks⟩ := activate_eq_error hnext hnames.1
      refine ⟨[], name, rest, plugin, part, rfl, hnew, hget, ?_, hbreaks⟩
      rw [hb]
      rfl

/-- The applications that come of a description when configurations are loaded any number of
times. -/
inductive Reachable : Application → Prop
  | built {draft : ApplicationDraft} {a : Application} : draft.build = .ok a → Reachable a
  | loaded {a : Application} (tree : FileTree) (options : RunOptions) (directory : Path) :
      Reachable a → Reachable (a.loadConfiguration tree options directory).1

/-- A load that fails before it comes to the plugins changes nothing. Otherwise a plugin has broken
off: those before it are active with all their linters, its own linters before the clash are
registered, and all that was there before is still there and in its place. -/
theorem loadConfiguration_error (a : Application) (tree : FileTree) (options : RunOptions)
    (directory : Path) (e : Error)
    (h : (a.loadConfiguration tree options directory).2 = .error e) :
    ((a.loadConfiguration tree options directory).1 = a ∧
      (a.ownConfiguration tree options directory = .error e ∨
        ∃ own, a.ownConfiguration tree options directory = .ok own ∧
          (own.resolve tree a.plugins options.plugins).result = .error e)) ∨
    ∃ own c before failing rest plugin part,
      a.ownConfiguration tree options directory = .ok own ∧
      (own.resolve tree a.plugins options.plugins).result = .ok c ∧
      (own.resolve tree a.plugins options.plugins).loaded = before ++ failing :: rest ∧
      failing ∉ a.activated ∧ a.plugins.get failing = .ok plugin ∧
      (a.loadConfiguration tree options directory).1 =
        a.extend (a.inactive before) ((a.inactive before).flatMap a.plugins.lintersOf ++ part) ∧
      plugin.BreaksOff (a.loadConfiguration tree options directory).1.linters part e := by
  unfold loadConfiguration at h ⊢
  cases hown : a.ownConfiguration tree options directory with
  | error e' =>
    rw [hown] at h
    cases h
    exact .inl ⟨rfl, .inl rfl⟩
  | ok own =>
    rw [hown] at h
    dsimp only at h ⊢
    cases hresult : (own.resolve tree a.plugins options.plugins).result with
    | error e' =>
      rw [hresult] at h
      cases h
      exact .inl ⟨rfl, .inr ⟨own, rfl, hresult⟩⟩
    | ok c =>
      obtain ⟨hnodup, hnames⟩ := Configuration.resolve_loaded tree a.plugins own options.plugins
      rw [hresult] at h
      dsimp only at h ⊢
      cases hall : a.activateAll (own.resolve tree a.plugins options.plugins).loaded with
      | mk b outcome =>
        rw [hall] at h
        cases outcome with
        | ok => cases h
        | error e' =>
          cases h
          obtain ⟨before, failing, rest, plugin, part, hloaded, hnew, hget, hb, hbreaks⟩ :=
            activateAll_eq_error hnodup hnames hall
          exact .inr ⟨own, c, before, failing, rest, plugin, part, rfl, hresult, hloaded, hnew,
            hget, hb, hbreaks⟩

def idle (name : String) : Descriptor :=
  ⟨name, "", .empty, fun _ ↦ .ok fun _ ↦ .quiet⟩

/-- An application with the linter `A`, a plugin that brings `B`, and one that brings `C` and
another `A`. -/
def clashing : ApplicationDraft where
  name := some "Clash"
  executableName := some "clash"
  version := some "1"
  configurationFileNames := some []
  fileExtensions := some ["txt"]
  base := .empty
  homeUrl := none
  issuesUrl := none
  linters := [idle "A"]
  plugins := [⟨"p", none, .ok [idle "B"]⟩, ⟨"q", none, .ok [idle "C", idle "A"]⟩]
  parser := .plain

/-- The application of that description. -/
def clashingApplication : Application where
  name := "Clash"
  executableName := "clash"
  version := "1"
  configurationFileNames := []
  fileExtensions := ["txt"]
  base := .empty
  homeUrl := none
  issuesUrl := none
  linters := ⟨[idle "A"]⟩
  plugins := ⟨[⟨"p", none, .ok [idle "B"]⟩, ⟨"q", none, .ok [idle "C", idle "A"]⟩]⟩
  activated := []
  formatters := .standard
  parser := .plain

def bothPlugins : RunOptions := { RunOptions.none with plugins := ["p", "q"] }

theorem loadConfiguration_error_clash :
    (clashingApplication.loadConfiguration ⟨[], []⟩ bothPlugins ⟨""⟩).2 =
      .error (.repeatedLinter "A") ∧
    ∃ own c before failing rest plugin part,
      clashingApplication.ownConfiguration ⟨[], []⟩ bothPlugins ⟨""⟩ = .ok own ∧
      (own.resolve ⟨[], []⟩ clashingApplication.plugins ["p", "q"]).result = .ok c ∧
      (own.resolve ⟨[], []⟩ clashingApplication.plugins ["p", "q"]).loaded =
        before ++ failing :: rest ∧
      failing ∉ clashingApplication.activated ∧
      clashingApplication.plugins.get failing = .ok plugin ∧
      (clashingApplication.loadConfiguration ⟨[], []⟩ bothPlugins ⟨""⟩).1 =
        clashingApplication.extend (clashingApplication.inactive before)
          ((clashingApplication.inactive before).flatMap
            clashingApplication.plugins.lintersOf ++ part) ∧
      plugin.BreaksOff (clashingApplication.loadConfiguration ⟨[], []⟩ bothPlugins ⟨""⟩).1.linters
        part (.repeatedLinter "A") := by
  have hactive : (clashingApplication.loadConfiguration ⟨[], []⟩ bothPlugins ⟨""⟩).1.activated =
      ["p"] := rfl
  refine ⟨rfl, (loadConfiguration_error clashingApplication ⟨[], []⟩ bothPlugins ⟨""⟩ _
    rfl).resolve_left fun h ↦ ?_⟩
  rw [h.1] at hactive
  cases hactive

theorem not_atomic_loadConfiguration : ¬ ∀ (a : Application), a.Reachable →
    ∀ (tree : FileTree) (options : RunOptions) (directory : Path) (e : Error),
      (a.loadConfiguration tree options directory).2 = .error e →
        (a.loadConfiguration tree options directory).1.linters = a.linters ∧
        (a.loadConfiguration tree options directory).1.activated = a.activated := by
  intro h
  have hbuild : clashing.build = .ok clashingApplication := rfl
  have hactivated := (h clashingApplication (.built hbuild) ⟨[], []⟩ bothPlugins ⟨""⟩
    (.repeatedLinter "A") rfl).2
  cases hactivated

end Application

end LintEngine
