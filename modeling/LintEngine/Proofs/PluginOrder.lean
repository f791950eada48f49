import LintEngine.Proofs.Activation
import LintEngine.Proofs.Spelling
import LintEngine.Proofs.Trails

namespace LintEngine.Configuration

open Resolution

variable {tree : FileTree} {plugins : Plugins} {c d r : Configuration} {extra loaded : List String}
  {name : String} {names names' : List String}

/-- A file or a plugin to which a configuration sends a visit. -/
inductive Stop where
  | file (path : Path)
  | plugin (name : String)

def Stop.path? (tree : FileTree) (plugins : Plugins) : Stop → Option Path
  | .file path => some path
  | .plugin name => pluginFile? tree plugins name

/-- Where a configuration sends a visit, in order: to the files that it names, to its plugins, and
to the extra ones. -/
def stops (c : Configuration) (extra : List String) : List Stop :=
  ((c.listed extendsKey).map fun file ↦ .file (c.lookedUp file)) ++
    (c.listed pluginsKey ++ extra).map .plugin

variable (tree plugins) in
/-- `Visits stops names`: going through the stops meets these names of plugins, in order and as
often as they are met. At a file, all is visited to which its configuration sends; at a plugin, its
name is met, and then its file is visited, if there is one. -/
inductive Visits : List Stop → List String → Prop
  | nil : Visits [] []
  | file {path : Path} {rest : List Stop} {d : Configuration} {inner after : List String} :
      load tree path = .ok d → Visits (d.stops []) inner → Visits rest after →
      Visits (.file path :: rest) (inner ++ after)
  | plugin {name : String} {rest : List Stop} {after : List String} :
      Visits ((pluginFile? tree plugins name).toList.map .file ++ rest) after →
      Visits (.plugin name :: rest) (name :: after)

variable {stops rest : List Stop} {stop : Stop}

theorem filterMap_stops (c : Configuration) (extra : List String) :
    (c.stops extra).filterMap (Stop.path? tree plugins) = references tree plugins c extra := by
  simp only [Configuration.stops, references, List.filterMap_append, List.filterMap_map]
  congr 1
  exact List.filterMap_eq_map_iff_forall_eq_some.2 fun _ _ ↦ rfl

theorem plugin_mem_stops : .plugin name ∈ c.stops extra ↔ name ∈ c.listed pluginsKey ++ extra := by
  simp [Configuration.stops]

namespace Visits

theorem append (h : Visits tree plugins stops names) (h' : Visits tree plugins rest names') :
    Visits tree plugins (stops ++ rest) (names ++ names') := by
  induction h with
  | nil => exact h'
  | file hd hinner _ _ ih =>
    rw [List.cons_append, List.append_assoc]
    exact .file hd hinner ih
  | plugin _ ih =>
    rw [List.append_assoc] at ih
    exact .plugin ih

theorem unique (h : Visits tree plugins stops names) (h' : Visits tree plugins stops names') :
    names' = names := by
  induction h generalizing names' with
  | nil =>
    cases h'
    rfl
  | file hd _ _ ihinner ihafter =>
    cases h' with
    | file hd' hinner hafter =>
      cases hd.symm.trans hd'
      rw [ihinner hinner, ihafter hafter]
  | plugin _ ih =>
    cases h' with
    | plugin hafter => rw [ih hafter]

theorem mem_of_plugin (h : Visits tree plugins stops names) (hs : .plugin name ∈ stops) :
    name ∈ names := by
  induction h with
  | nil => cases hs
  | file _ _ _ _ ih =>
    rcases List.mem_cons.1 hs with hs | hs
    · cases hs
    · exact List.mem_append_right _ (ih hs)
  | plugin _ ih =>
    rcases List.mem_cons.1 hs with hs | hs
    · cases hs
      exact List.mem_cons_self
    · exact List.mem_cons_of_mem _ (ih (List.mem_append_right _ hs))

theorem exists_inner (h : Visits tree plugins stops names) (hs : stop ∈ stops) {path : Path}
    (hpath : stop.path? tree plugins = some path) :
    ∃ d inner, load tree path = .ok d ∧ Visits tree plugins (d.stops []) inner ∧
      inner ⊆ names := by
  induction h generalizing stop with
  | nil => cases hs
  | @file _ _ d inner _ hd hinner _ _ ih =>
    rcases List.mem_cons.1 hs with rfl | hs
    · cases hpath
      exact ⟨d, inner, hd, hinner, List.subset_append_left _ _⟩
    · obtain ⟨d', inner', hd', hinner', hsub⟩ := ih hs hpath
      exact ⟨d', inner', hd', hinner', List.Subset.trans hsub (List.subset_append_right _ _)⟩
  | @plugin name rest _ _ ih =>
    -- The file of the plugin is the next stop.
    have hnext : ∃ stop' ∈ (pluginFile? tree plugins name).toList.map Stop.file ++ rest,
        stop'.path? tree plugins = some path := by
      rcases List.mem_cons.1 hs with rfl | hs
      · exact ⟨.file path, List.mem_append_left _ (by simpa [Stop.path?] using hpath), rfl⟩
      · exact ⟨stop, List.mem_append_right _ hs, hpath⟩
    obtain ⟨stop', hs', hpath'⟩ := hnext
    obtain ⟨d', inner', hd', hinner', hsub⟩ := ih hs' hpath'
    exact ⟨d', inner', hd', hinner', List.Subset.trans hsub (List.subset_cons_self _ _)⟩

theorem exists_of_trail (h : Visits tree plugins (c.stops extra) names) {visited : List Path}
    {path : Path} (ht : Trail tree plugins c extra visited path) :
    ∃ d inner, load tree path = .ok d ∧ Visits tree plugins (d.stops []) inner ∧
      inner ⊆ names := by
  induction ht with
  | root hp =>
    rw [← filterMap_stops] at hp
    obtain ⟨stop, hs, hpath⟩ := List.mem_filterMap.1 hp
    exact h.exists_inner hs hpath
  | step _ hd hnext ih =>
    obtain ⟨d', inner, hd', hinner, hsub⟩ := ih
    cases hd.symm.trans hd'
    rw [← filterMap_stops] at hnext
    obtain ⟨stop, hs, hpath⟩ := List.mem_filterMap.1 hnext
    obtain ⟨d'', inner', hd'', hinner', hsub'⟩ := hinner.exists_inner hs hpath
    exact ⟨d'', inner', hd'', hinner', List.Subset.trans hsub' hsub⟩

/-- Nothing but the stops and the configurations at the ends of trails brings a name in. -/
theorem plugin_or_trail (h : Visits tree plugins stops names)
    (ht : ∀ stop ∈ stops, ∀ path, stop.path? tree plugins = some path →
      ∃ visited, Trail tree plugins c extra visited path) (hname : name ∈ names) :
    .plugin name ∈ stops ∨ ∃ visited path d, Trail tree plugins c extra visited path ∧
      load tree path = .ok d ∧ name ∈ d.listed pluginsKey := by
  induction h with
  | nil => cases hname
  | @file path rest d _ _ hd _ _ ihinner ihafter =>
    rw [List.forall_mem_cons] at ht
    rcases List.mem_append.1 hname with hname | hname
    · obtain ⟨visited, htrail⟩ := ht.1 path rfl
      have hinner : ∀ stop ∈ d.stops [], ∀ next, stop.path? tree plugins = some next →
          ∃ visited, Trail tree plugins c extra visited next := by
        intro stop hs next hnext
        refine ⟨_, htrail.step hd ?_⟩
        rw [← filterMap_stops]
        exact List.mem_filterMap.2 ⟨stop, hs, hnext⟩
      rcases ihinner hinner hname with hs | hfound
      · rw [plugin_mem_stops, List.append_nil] at hs
        exact .inr ⟨visited, path, d, htrail, hd, hs⟩
      · exact .inr hfound
    · exact (ihafter ht.2 hname).imp_left (List.mem_cons_of_mem _)
  | @plugin first rest _ _ ih =>
    rw [List.forall_mem_cons] at ht
    rcases List.mem_cons.1 hname with rfl | hname
    · exact .inl List.mem_cons_self
    · have hnext : ∀ stop ∈ (pluginFile? tree plugins first).toList.map Stop.file ++ rest,
          ∀ path, stop.path? tree plugins = some path →
            ∃ visited, Trail tree plugins c extra visited path := by
        intro stop hs path hpath
        rcases List.mem_append.1 hs with hs | hs
        · obtain ⟨file, hfile, rfl⟩ := List.mem_map.1 hs
          cases hpath
          exact ht.1 path (Option.mem_toList.1 hfile)
        · exact ht.2 stop hs path hpath
      refine (ih hnext hname).imp_left fun hs ↦ ?_
      rcases List.mem_append.1 hs with hs | hs
      · obtain ⟨_, -, hs⟩ := List.mem_map.1 hs
        cases hs
      · exact List.mem_cons_of_mem _ hs

/-- The names that are met are those that the configuration lists, the extra ones, and those that a
configuration at the end of a trail lists. -/
theorem mem_iff (h : Visits tree plugins (c.stops extra) names) :
    name ∈ names ↔ name ∈ c.listed pluginsKey ++ extra ∨
      ∃ visited path d, Trail tree plugins c extra visited path ∧ load tree path = .ok d ∧
        name ∈ d.listed pluginsKey := by
  constructor
  · intro hname
    rw [← plugin_mem_stops]
    refine h.plugin_or_trail (fun stop hs path hpath ↦ ⟨[], .root ?_⟩) hname
    rw [← filterMap_stops]
    exact List.mem_filterMap.2 ⟨stop, hs, hpath⟩
  · rintro (hname | ⟨visited, path, d, htrail, hd, hname⟩)
    · exact h.mem_of_plugin (plugin_mem_stops.2 hname)
    · obtain ⟨d', inner, hd', hinner, hsub⟩ := h.exists_of_trail htrail
      cases hd.symm.trans hd'
      exact hsub (hinner.mem_of_plugin (plugin_mem_stops.2 (List.mem_append_left _ hname)))

end Visits

theorem foldl_noteLoaded (loaded names : List String) :
    names.foldl noteLoaded loaded = loaded ++ (names.filter (· ∉ loaded)).eraseDups := by
  induction names generalizing loaded with
  | nil => simp
  | cons name names ih =>
    rw [List.foldl_cons, ih, noteLoaded]
    by_cases hname : name ∈ loaded
    · simp [hname]
    · have hnew : names.filter (· ∉ loaded ++ [name]) =
          (names.filter (· ∉ loaded)).filter fun other ↦ !other == name := by
        rw [List.filter_filter]
        exact List.filter_congr fun other _ ↦ by simp [and_comm, Bool.beq_eq_decide_eq]
      rw [if_neg (by simpa using hname), hnew, List.filter_cons_of_pos (by simpa using hname),
        List.eraseDups_cons, List.append_assoc, List.singleton_append]

theorem Resolution.andThen_of_ok {α β : Type} {r : Resolution α}
    {f : α → List String → Resolution β} {a : α} (h : r.result = .ok a) :
    r.andThen f = f a r.loaded := by
  simp only [andThen, h]

section Resolving

variable {resolveFile : Path → List String → Resolution Configuration}

variable (tree plugins) in
/-- Where a file is resolved, its configuration has been visited and the names that were met have
been noted. -/
def Notes (resolveFile : Path → List String → Resolution Configuration) : Prop :=
  ∀ path loaded r, (resolveFile path loaded).result = .ok r → ∃ d inner,
    load tree path = .ok d ∧ Visits tree plugins (d.stops []) inner ∧
      (resolveFile path loaded).loaded = inner.foldl noteLoaded loaded

theorem visits_of_resolvePaths (hfile : Notes tree plugins resolveFile) {paths : List Path}
    {parents : List Configuration}
    (h : (resolvePaths resolveFile paths loaded).result = .ok parents) :
    ∃ names, Visits tree plugins (paths.map .file) names ∧
      (resolvePaths resolveFile paths loaded).loaded = names.foldl noteLoaded loaded := by
  induction paths generalizing loaded parents with
  | nil => exact ⟨[], .nil, rfl⟩
  | cons path paths ih =>
    rw [resolvePaths] at h ⊢
    obtain ⟨parent, hparent, h⟩ := andThen_eq_ok.1 h
    obtain ⟨more, hmore, -⟩ := andThen_eq_ok.1 h
    obtain ⟨d, inner, hd, hinner, hnoted⟩ := hfile path loaded parent hparent
    obtain ⟨after, hafter, hnoted'⟩ := ih hmore
    refine ⟨inner ++ after, .file hd hinner hafter, ?_⟩
    rw [andThen_of_ok hparent, andThen_of_ok hmore, List.foldl_append, ← hnoted, ← hnoted']
    rfl

theorem visits_of_resolvePlugins (hfile : Notes tree plugins resolveFile) {wanted : List String}
    {parents : List Configuration}
    (h : (resolvePlugins tree plugins resolveFile wanted loaded).result = .ok parents) :
    ∃ names, Visits tree plugins (wanted.map .plugin) names ∧
      (resolvePlugins tree plugins resolveFile wanted loaded).loaded =
        names.foldl noteLoaded loaded := by
  induction wanted generalizing loaded parents with
  | nil => exact ⟨[], .nil, rfl⟩
  | cons name wanted ih =>
    rw [resolvePlugins] at h ⊢
    cases hp : plugins.get name with
    | error e => simp [hp, Resolution.error] at h
    | ok plugin =>
      simp only [hp] at h ⊢
      cases hf : plugin.configurationFile.filter tree.isFile with
      | none =>
        simp only [hf] at h ⊢
        obtain ⟨after, hafter, hnoted⟩ := ih h
        refine ⟨name :: after, .plugin ?_, hnoted⟩
        rwa [pluginFile?_of_get hp, hf]
      | some path =>
        simp only [hf] at h ⊢
        obtain ⟨parent, hparent, h⟩ := andThen_eq_ok.1 h
        obtain ⟨more, hmore, -⟩ := andThen_eq_ok.1 h
        obtain ⟨d, inner, hd, hinner, hnoted⟩ := hfile path _ parent hparent
        obtain ⟨after, hafter, hnoted'⟩ := ih hmore
        refine ⟨name :: (inner ++ after), .plugin ?_, ?_⟩
        · rw [pluginFile?_of_get hp, hf]
          exact .file hd hinner hafter
        · rw [andThen_of_ok hparent, andThen_of_ok hmore, List.foldl_cons, List.foldl_append,
            ← hnoted, ← hnoted']
          rfl

theorem visits_of_resolveWith (hfile : Notes tree plugins resolveFile)
    (h : (resolveWith tree plugins resolveFile c extra loaded).result = .ok r) :
    ∃ names, Visits tree plugins (c.stops extra) names ∧
      (resolveWith tree plugins resolveFile c extra loaded).loaded =
        names.foldl noteLoaded loaded := by
  obtain ⟨hreadable, -⟩ := resolveWith_ok h
  unfold resolveWith at h ⊢
  simp only [hreadable.files, hreadable.names] at h ⊢
  obtain ⟨parents, hparents, h⟩ := andThen_eq_ok.1 h
  obtain ⟨more, hmore, -⟩ := andThen_eq_ok.1 h
  obtain ⟨before, hbefore, hnoted⟩ := visits_of_resolvePaths hfile hparents
  obtain ⟨after, hafter, hnoted'⟩ := visits_of_resolvePlugins hfile hmore
  refine ⟨before ++ after, ?_, ?_⟩
  · have hvisits := hbefore.append hafter
    rwa [← lookedUp_eq, List.map_map] at hvisits
  · rw [andThen_of_ok hparents, andThen_of_ok hmore, List.foldl_append, ← hnoted, ← hnoted']
    rfl

end Resolving

theorem notes_resolveFile (tree : FileTree) (plugins : Plugins) (n : ℕ) (chain : List Path) :
    Notes tree plugins (resolveFile tree plugins n chain) := by
  induction n generalizing chain with
  | zero =>
    intro path loaded r h
    cases h
  | succ n ih =>
    intro path loaded r h
    rw [resolveFile] at h ⊢
    cases hd : load tree path with
    | error e => simp [hd, Resolution.error] at h
    | ok d =>
      simp only [hd] at h ⊢
      split at h
      · cases h
      · next hchain =>
        rw [if_neg hchain]
        obtain ⟨inner, hinner, hnoted⟩ := visits_of_resolveWith (ih _) h
        exact ⟨d, inner, rfl, hinner, hnoted⟩

/-- Where resolving succeeds, the plugins that it has met are the first occurrences of their names
in a depth-first visit, which meets the names that any visited configuration lists. -/
theorem loaded_order (h : (resolve tree plugins c extra).result = .ok r) :
    (resolve tree plugins c extra).loaded.Nodup ∧
    (∃! names, Visits tree plugins (c.stops extra) names) ∧
    (∀ names, Visits tree plugins (c.stops extra) names →
      (resolve tree plugins c extra).loaded = names.eraseDups) ∧
    ∀ name, name ∈ (resolve tree plugins c extra).loaded ↔
      name ∈ c.listed pluginsKey ++ extra ∨
      ∃ visited path d, Trail tree plugins c extra visited path ∧ load tree path = .ok d ∧
        name ∈ d.listed pluginsKey := by
  obtain ⟨names, hvisits, hnoted⟩ := visits_of_resolveWith (notes_resolveFile tree plugins _ _) h
  have hloaded : (resolve tree plugins c extra).loaded = names.eraseDups := by
    rw [resolve, hnoted, foldl_noteLoaded]
    simp
  refine ⟨(resolve_loaded tree plugins c extra).1, ⟨names, hvisits, fun _ ↦ hvisits.unique⟩, ?_, ?_⟩
  · intro names' hvisits'
    rw [hloaded, hvisits.unique hvisits']
  · intro name
    rw [hloaded, List.mem_eraseDups, hvisits.mem_iff]

section ListingQ

/-- A directory with two files: `r` extends `f` beside it and lists the plugin `p`, and `f` lists
the plugin `q`. -/
def listingQ : FileTree where
  nodes := [(["d"], .directory),
    (["d", "r"], .file "\x7b\"extends\":\"f\",\"linter_plugins\":\"p\"\x7d".toUTF8),
    (["d", "f"], .file "\x7b\"linter_plugins\":\"q\"\x7d".toUTF8)]
  workingPlace := []

def extendingQ : Configuration :=
  ⟨[(extendsKey, .string "f"), (pluginsKey, .string "p")], some ⟨"d/r"⟩⟩

def layerQ : Configuration := ⟨[(pluginsKey, .string "q")], some ⟨"d/f"⟩⟩

def twoPlugins : Plugins := ⟨[⟨"p", some ⟨"d/f"⟩, .ok []⟩, ⟨"q", none, .ok []⟩]⟩

theorem locate_listingQ :
    listingQ.locate .follow ⟨"d/r"⟩ = .ok ["d", "r"] ∧
    listingQ.locate .follow ⟨"d/f"⟩ = .ok ["d", "f"] := by
  have hlinks : listingQ.WithoutLinks :=
    .of_nodes (by simp [listingQ]) (by decide) (by simp [listingQ])
  simp only [FileTree.locate_eq_ok hlinks]
  decide

theorem load_listingQ :
    load listingQ ⟨"d/r"⟩ = .ok extendingQ ∧ load listingQ ⟨"d/f"⟩ = .ok layerQ ∧
    listingQ.isFile ⟨"d/f"⟩ = true := by
  obtain ⟨hr, hf⟩ := locate_listingQ
  have hnode : listingQ.node? ["d", "f"] =
      some (.file "\x7b\"linter_plugins\":\"q\"\x7d".toUTF8) := rfl
  refine ⟨load_json rfl hr rfl ?_, load_json rfl hf hnode ?_, ?_⟩
  · simp only [String.reduceToList]
    rfl
  · simp only [String.reduceToList]
    rfl
  · simp [FileTree.isFile, FileTree.lookup, hf, hnode, bind, Except.bind]

theorem lookedUp_extendingQ : extendingQ.lookedUp "f" = ⟨"d/f"⟩ := by
  decide +kernel

theorem resolve_listingQ : (resolve listingQ twoPlugins extendingQ ["q"]).result =
    .ok (overParents [⟨[], some ⟨"d/f"⟩⟩, ⟨[], some ⟨"d/f"⟩⟩] ⟨[], some ⟨"d/r"⟩⟩) := by
  obtain ⟨-, hload, hfile⟩ := load_listingQ
  have hjoin : extendingQ.directory.join ⟨"f"⟩ = ⟨"d/f"⟩ := by
    simpa only [lookedUp_eq] using lookedUp_extendingQ
  have hroot : extendingQ.strings extendsKey = .ok ["f"] ∧
      extendingQ.strings pluginsKey = .ok ["p"] ∧ extendingQ.path = some ⟨"d/r"⟩ ∧
      extendingQ.withoutDirectives = ⟨[], some ⟨"d/r"⟩⟩ := ⟨rfl, rfl, rfl, rfl⟩
  have hlayer : layerQ.strings extendsKey = .ok [] ∧ layerQ.strings pluginsKey = .ok ["q"] ∧
      overParents [] layerQ.withoutDirectives = ⟨[], some ⟨"d/f"⟩⟩ := ⟨rfl, rfl, rfl⟩
  have hget : twoPlugins.get "p" = .ok ⟨"p", some ⟨"d/f"⟩, .ok []⟩ ∧
      twoPlugins.get "q" = .ok ⟨"q", none, .ok []⟩ := ⟨rfl, rfl⟩
  have hkey : (chainKey listingQ ⟨"d/f"⟩).same (chainKey listingQ ⟨"d/r"⟩) = false := by
    obtain ⟨hr, hf⟩ := locate_listingQ
    simp only [chainKey, FileTree.canonical?, hr, hf]
    decide +kernel
  simp only [resolve, resolveWith, resolvePaths, resolvePlugins, resolveFile, hload, hfile, hroot,
    hjoin, hkey, hlayer, hget, Resolution.andThen, Resolution.ok, Option.map_some,
    Option.toList_some, List.any_cons, List.any_nil, Bool.or_self, Bool.false_eq_true, if_false,
    List.map_cons, List.map_nil, List.append_nil, List.nil_append, List.cons_append,
    Option.filter_some, Option.filter_none, if_true]

/-- The file `f` is visited twice, before `p` is met and after that, and `q` is met a third time as
an extra plugin. -/
theorem loaded_order_listingQ :
    load listingQ ⟨"d/r"⟩ = .ok extendingQ ∧
    (∃ r, (resolve listingQ twoPlugins extendingQ ["q"]).result = .ok r) ∧
    Visits listingQ twoPlugins (extendingQ.stops ["q"]) ["q", "p", "q", "q"] ∧
    (resolve listingQ twoPlugins extendingQ ["q"]).loaded = ["q", "p"] := by
  obtain ⟨hroot, hload, hfile⟩ := load_listingQ
  have hstops : extendingQ.stops ["q"] = [.file ⟨"d/f"⟩, .plugin "p", .plugin "q"] :=
    congrArg (fun path ↦ [Stop.file path, .plugin "p", .plugin "q"]) lookedUp_extendingQ
  have hlayer : layerQ.stops [] = [.plugin "q"] := rfl
  have hp : pluginFile? listingQ twoPlugins "p" = some ⟨"d/f"⟩ := by
    have hget : twoPlugins.get "p" = .ok ⟨"p", some ⟨"d/f"⟩, .ok []⟩ := rfl
    rw [pluginFile?_of_get hget]
    simp [hfile]
  have hq : pluginFile? listingQ twoPlugins "q" = none := rfl
  have hinner : Visits listingQ twoPlugins (layerQ.stops []) ["q"] := by
    rw [hlayer]
    exact .plugin (by simpa [hq] using .nil)
  have hvisits : Visits listingQ twoPlugins (extendingQ.stops ["q"]) ["q", "p", "q", "q"] := by
    rw [hstops]
    refine .file hload hinner (.plugin ?_)
    rw [hp]
    exact .file hload hinner (.plugin (by simpa [hq] using .nil))
  refine ⟨hroot, ⟨_, resolve_listingQ⟩, hvisits, ?_⟩
  rw [(loaded_order resolve_listingQ).2.2.1 _ hvisits]
  decide

end ListingQ

end LintEngine.Configuration
