import LintEngine.Proofs.Reading
import LintEngine.Proofs.References
import LintEngine.Proofs.Spelling

namespace LintEngine

namespace Configuration

variable {tree : FileTree} {plugins : Plugins} {a b c r : Configuration}
  {l l' below : List Configuration}

/-- No chain of keys leads to a map in `a` and to something else in `b`. -/
def AgreesWith (a b : Configuration) : Prop :=
  ∀ path, a.fields.HoldsMap path → ¬ b.fields.HoldsOther path

def Agree (l : List Configuration) : Prop := ∀ a ∈ l, ∀ b ∈ l, a.AgreesWith b

theorem Agree.subset {l l' : List Configuration} (h : Agree l) (hs : l' ⊆ l) : Agree l' :=
  fun a ha b hb ↦ h a (hs ha) b (hs hb)

theorem empty_merge (hc : c.UniqueKeys) : empty.merge c = c := by
  simp only [merge, empty, Fields.nil_merge hc.nodup, Option.or_none]

theorem UniqueKeys.merge {a b : Configuration} (ha : a.UniqueKeys) (hb : b.UniqueKeys) :
    (a.merge b).UniqueKeys := Fields.UniqueKeys.merge ha hb

theorem merge_assoc (ha : a.UniqueKeys) (hb : b.UniqueKeys) (hc : c.UniqueKeys)
    (h : a.AgreesWith b) : (a.merge b).merge c = a.merge (b.merge c) := by
  simp only [Configuration.merge, Fields.merge_assoc ha hb hc (fun path hm _ ↦ h path hm),
    Option.or_assoc]

theorem uniqueKeys_foldl (ha : a.UniqueKeys) (hl : ∀ m ∈ l, m.UniqueKeys) :
    (l.foldl merge a).UniqueKeys := by
  induction l generalizing a with
  | nil => exact ha
  | cons m rest ih =>
    rw [List.forall_mem_cons] at hl
    exact ih (ha.merge hl.1) hl.2

/-- Where the configurations agree, it does not matter whether they are laid over `a` one by one or
all at once. -/
theorem foldl_merge (ha : a.UniqueKeys) (hl : ∀ m ∈ l, m.UniqueKeys)
    (hal : ∀ m ∈ l, a.AgreesWith m) (hagree : Agree l) :
    l.foldl merge a = a.merge (l.foldl merge empty) := by
  induction l generalizing a with
  | nil => simp [merge, empty, Fields.merge_nil]
  | cons m rest ih =>
    rw [List.forall_mem_cons] at hl hal
    have hrest : Agree rest := hagree.subset (List.subset_cons_self m rest)
    have hm : ∀ m' ∈ rest, m.AgreesWith m' := fun m' hm' ↦
      hagree m List.mem_cons_self m' (List.mem_cons_of_mem m hm')
    have ham : ∀ m' ∈ rest, (a.merge m).AgreesWith m' := fun m' hm' path hp ↦
      (Fields.HoldsMap.of_merge hl.1 hp).elim (hal.2 m' hm' path) (hm m' hm' path)
    have hempty : empty.UniqueKeys := Fields.uniqueKeys_nil
    calc (m :: rest).foldl merge a
        = (a.merge m).merge (rest.foldl merge empty) := ih (ha.merge hl.1) hl.2 ham hrest
      _ = a.merge (m.merge (rest.foldl merge empty)) :=
        merge_assoc ha hl.1 (uniqueKeys_foldl hempty hl.2) hal.1
      _ = a.merge (rest.foldl merge m) := by rw [ih hl.1 hl.2 hm hrest]
      _ = a.merge ((m :: rest).foldl merge empty) := by rw [List.foldl_cons, empty_merge hl.1]

/-- What is known of the configuration that a list of configurations is merged to, in whatever way
they are put together. -/
structure MergedFrom (l : List Configuration) (r : Configuration) : Prop where
  members : ∀ m ∈ l, m.UniqueKeys
  uniqueKeys : r.UniqueKeys
  mem_keys : ∀ k, k ∈ r.fields.keys ↔ ∃ m ∈ l, k ∈ m.fields.keys
  holdsMap : ∀ path, r.fields.HoldsMap path → ∃ m ∈ l, m.fields.HoldsMap path
  eq_foldl : Agree l → r = l.foldl merge empty

namespace MergedFrom

theorem single (hc : c.UniqueKeys) : MergedFrom [c] c where
  members := by simpa using hc
  uniqueKeys := hc
  mem_keys := by simp
  holdsMap := by simp
  eq_foldl := fun _ ↦ (empty_merge hc).symm

theorem merge {l l' : List Configuration} {a b : Configuration} (ha : MergedFrom l a)
    (hb : MergedFrom l' b) : MergedFrom (l ++ l') (a.merge b) where
  members := fun m hm ↦ (List.mem_append.1 hm).elim (ha.members m) (hb.members m)
  uniqueKeys := ha.uniqueKeys.merge hb.uniqueKeys
  mem_keys := fun k ↦ by
    simp only [Configuration.merge, Fields.mem_keys_merge, ha.mem_keys, hb.mem_keys,
      List.mem_append, or_and_right, exists_or]
  holdsMap := fun path hp ↦ by
    rcases Fields.HoldsMap.of_merge hb.uniqueKeys hp with h | h
    · obtain ⟨m, hm, hp⟩ := ha.holdsMap path h
      exact ⟨m, List.mem_append_left l' hm, hp⟩
    · obtain ⟨m, hm, hp⟩ := hb.holdsMap path h
      exact ⟨m, List.mem_append_right l hm, hp⟩
  eq_foldl := fun h ↦ by
    have hl : Agree l := h.subset (List.subset_append_left l l')
    have hl' : Agree l' := h.subset (List.subset_append_right l l')
    have hal : ∀ m ∈ l', a.AgreesWith m := by
      intro m hm path hp
      obtain ⟨m', hm', hp⟩ := ha.holdsMap path hp
      exact h m' (List.mem_append_left l' hm') m (List.mem_append_right l hm) path hp
    rw [List.foldl_append, ← ha.eq_foldl hl, foldl_merge ha.uniqueKeys hb.members hal hl',
      ← hb.eq_foldl hl']

theorem foldl {ls : List (List Configuration)} {parents : List Configuration}
    (ha : MergedFrom l a) (h : List.Forall₂ MergedFrom ls parents) :
    MergedFrom (l ++ ls.flatten) (parents.foldl Configuration.merge a) := by
  induction h generalizing l a with
  | nil => simpa using ha
  | cons hb _ ih => simpa using ih (ha.merge hb)

theorem overParents {ls : List (List Configuration)} {parents : List Configuration}
    (h : List.Forall₂ MergedFrom ls parents) (hc : c.UniqueKeys) :
    MergedFrom (ls.flatten ++ [c]) (overParents parents c) := by
  cases h with
  | nil => exact single hc
  | cons hfirst hrest => exact (hfirst.foldl hrest).merge (single hc)

end MergedFrom

theorem UniqueKeys.withoutDirectives (hc : c.UniqueKeys) : c.withoutDirectives.UniqueKeys :=
  Fields.UniqueKeys.erase (Fields.UniqueKeys.erase hc extendsKey) pluginsKey

variable (tree plugins) in
/-- The configurations that files and all that they refer to stand for: for each file first what
lies below it, then the file itself. -/
inductive Unfolds : List Path → List Configuration → Prop
  | nil : Unfolds [] []
  | cons {path : Path} {rest : List Path} {d : Configuration} {below after : List Configuration} :
      load tree path = .ok d → Unfolds (references tree plugins d []) below →
      Unfolds rest after → Unfolds (path :: rest) (below ++ d.withoutDirectives :: after)

theorem Unfolds.unique {paths : List Path} (h : Unfolds tree plugins paths l)
    (h' : Unfolds tree plugins paths l') : l' = l := by
  induction h generalizing l' with
  | nil =>
    cases h'
    rfl
  | cons hd _ _ ihbelow ihafter =>
    cases h' with
    | cons hd' hbelow hafter =>
      cases hd.symm.trans hd'
      rw [ihbelow hbelow, ihafter hafter]

theorem unfolds_of_resolved {resolveFile : Path → List String → Resolution Configuration}
    {paths : List Path} {parents : List Configuration}
    (h : List.Forall₂ (ResolvesTo resolveFile) paths parents)
    (hfile : ∀ path r, ResolvesTo resolveFile path r → ∃ d below, load tree path = .ok d ∧
      Unfolds tree plugins (references tree plugins d []) below ∧
      MergedFrom (below ++ [d.withoutDirectives]) r) :
    ∃ ls, Unfolds tree plugins paths ls.flatten ∧ List.Forall₂ MergedFrom ls parents := by
  induction h with
  | nil => exact ⟨[], .nil, .nil⟩
  | cons hr _ ih =>
    obtain ⟨d, below, hd, hbelow, hmerged⟩ := hfile _ _ hr
    obtain ⟨ls, hls, hparents⟩ := ih
    refine ⟨(below ++ [d.withoutDirectives]) :: ls, ?_, .cons hmerged hparents⟩
    simpa using Unfolds.cons hd hbelow hls

theorem resolveFile_merged {n : ℕ} {chain : List Path} {path : Path}
    (h : ResolvesTo (resolveFile tree plugins n chain) path r) :
    ∃ d below, load tree path = .ok d ∧
      Unfolds tree plugins (references tree plugins d []) below ∧
      MergedFrom (below ++ [d.withoutDirectives]) r := by
  induction n generalizing chain path r with
  | zero =>
    obtain ⟨m, -, -, hn, -⟩ := resolveFile_ok h
    cases hn
  | succ n ih =>
    obtain ⟨m, d, loaded, hn, hd, -, hw⟩ := resolveFile_ok h
    cases hn
    obtain ⟨-, parents, hparents, rfl⟩ := resolveWith_ok hw
    obtain ⟨ls, hls, hmerged⟩ := unfolds_of_resolved hparents (fun _ _ ↦ ih)
    exact ⟨d, ls.flatten, hd, hls, .overParents hmerged (uniqueKeys_of_load hd).withoutDirectives⟩

variable (tree plugins c) in
/-- All configurations in the order in which they are laid over each other: those that the files
stand for, then the configuration itself. -/
def Layers (extra : List String) (l : List Configuration) : Prop :=
  ∃ below, Unfolds tree plugins (references tree plugins c extra) below ∧
    l = below ++ [c.withoutDirectives]

theorem not_mem_keys_withoutDirectives {key : String} (hk : key = extendsKey ∨ key = pluginsKey) :
    key ∉ c.withoutDirectives.fields.keys := by
  simp only [withoutDirectives, erase, Fields.keys_erase, List.mem_filter]
  rcases hk with rfl | rfl <;> simp

theorem at?_withoutDirectives {key : String} {rest : List String} (he : key ≠ extendsKey)
    (hp : key ≠ pluginsKey) :
    c.withoutDirectives.fields.at? (key :: rest) = c.fields.at? (key :: rest) := by
  simp only [withoutDirectives, erase, Fields.at?_cons, Fields.get?_erase, he, hp, if_false]

theorem Unfolds.mem {paths : List Path} (h : Unfolds tree plugins paths l) {m : Configuration}
    (hm : m ∈ l) : ∃ d : Configuration, m = d.withoutDirectives := by
  induction h with
  | nil => cases hm
  | @cons _ _ d _ _ _ _ _ ihbelow ihafter =>
    rcases List.mem_append.1 hm with hm | hm
    · exact ihbelow hm
    · rcases List.mem_cons.1 hm with rfl | hm
      · exact ⟨d, rfl⟩
      · exact ihafter hm

/-- Precedence in a resolved configuration. It has the keys of all layers, but those that tell what
is extended; what the configuration itself says is kept, unless it is a map; and where the layers
agree on what is a map, it is their plain fold. -/
theorem resolve_precedence {extra : List String} (hc : c.UniqueKeys)
    (h : (resolve tree plugins c extra).result = .ok r) :
    (∃! l, Layers tree plugins c extra l) ∧ ∀ l, Layers tree plugins c extra l →
      (∀ k, k ∈ r.fields.keys ↔ ∃ m ∈ l, k ∈ m.fields.keys) ∧
      extendsKey ∉ r.fields.keys ∧ pluginsKey ∉ r.fields.keys ∧
      (∀ key rest v, key ≠ extendsKey → key ≠ pluginsKey →
        c.fields.at? (key :: rest) = some v → v.asMap? = none →
        r.fields.at? (key :: rest) = some v) ∧
      (Agree l → r = l.foldl merge empty) := by
  obtain ⟨-, parents, hparents, rfl⟩ := resolveWith_ok h
  obtain ⟨ls, hls, hmerged⟩ := unfolds_of_resolved hparents (fun _ _ ↦ resolveFile_merged)
  have hunique : ∀ l, Layers tree plugins c extra l → l = ls.flatten ++ [c.withoutDirectives] := by
    rintro _ ⟨below, hbelow, rfl⟩
    rw [hls.unique hbelow]
  have hresult := MergedFrom.overParents hmerged hc.withoutDirectives
  have hdirective : ∀ key, key = extendsKey ∨ key = pluginsKey →
      key ∉ (overParents parents c.withoutDirectives).fields.keys := by
    intro key hkey hk
    obtain ⟨m, hm, hk⟩ := (hresult.mem_keys key).1 hk
    rcases List.mem_append.1 hm with hm | hm
    · obtain ⟨d, rfl⟩ := hls.mem hm
      exact not_mem_keys_withoutDirectives hkey hk
    · cases List.mem_singleton.1 hm
      exact not_mem_keys_withoutDirectives hkey hk
  refine ⟨⟨_, ⟨_, hls, rfl⟩, hunique⟩, fun l hl ↦ ?_⟩
  cases hunique l hl
  refine ⟨hresult.mem_keys, hdirective _ (.inl rfl), hdirective _ (.inr rfl), ?_, hresult.eq_foldl⟩
  intro key rest v he hp hv hmap
  rw [← at?_withoutDirectives he hp] at hv
  cases parents with
  | nil => exact hv
  | cons first rest => exact Fields.at?_merge_of_other hc.withoutDirectives hv hmap

section Layered

/-- A directory with a file `r` and a directory `e`, in which `r` extends `e/f` and `e/g`, and `f`
the file `g` beside it. -/
def layered : FileTree where
  nodes := [(["d"], .directory),
    (["d", "r"], .file "\x7b\"extends\":[\"e/f\",\"e/g\"],\"a\":\x7b\"y\":false\x7d\x7d".toUTF8),
    (["d", "e"], .directory),
    (["d", "e", "f"], .file "\x7b\"extends\":\"g\",\"a\":\x7b\"x\":true\x7d\x7d".toUTF8),
    (["d", "e", "g"], .file "\x7b\"a\":\x7b\"z\":true\x7d\x7d".toUTF8)]
  workingPlace := []

def layeredRoot : Configuration :=
  ⟨[(extendsKey, .array [.string "e/f", .string "e/g"]), ("a", .map [("y", .bool false)])],
    some ⟨"d/r"⟩⟩

def layeredUpper : Configuration :=
  ⟨[(extendsKey, .string "g"), ("a", .map [("x", .bool true)])], some ⟨"d/e/f"⟩⟩

def layeredLower : Configuration := ⟨[("a", .map [("z", .bool true)])], some ⟨"d/e/g"⟩⟩

theorem locate_layered :
    layered.locate .follow ⟨"d/r"⟩ = .ok ["d", "r"] ∧
    layered.locate .follow ⟨"d/e/f"⟩ = .ok ["d", "e", "f"] ∧
    layered.locate .follow ⟨"d/e/g"⟩ = .ok ["d", "e", "g"] := by
  have hlinks : layered.WithoutLinks :=
    .of_nodes (by simp [layered]) (by decide) (by simp [layered])
  simp only [FileTree.locate_eq_ok hlinks]
  decide

theorem load_layered :
    load layered ⟨"d/r"⟩ = .ok layeredRoot ∧ load layered ⟨"d/e/f"⟩ = .ok layeredUpper ∧
    load layered ⟨"d/e/g"⟩ = .ok layeredLower := by
  obtain ⟨hr, hf, hg⟩ := locate_layered
  refine ⟨load_json rfl hr rfl ?_, load_json rfl hf rfl ?_, load_json rfl hg rfl ?_⟩
  all_goals
    simp only [String.reduceToList]
    rfl

theorem lookedUp_layered :
    layeredRoot.lookedUp "e/f" = ⟨"d/e/f"⟩ ∧ layeredRoot.lookedUp "e/g" = ⟨"d/e/g"⟩ ∧
    layeredUpper.lookedUp "g" = ⟨"d/e/g"⟩ := by
  decide +kernel

theorem chainKey_layered :
    chainKey layered ⟨"d/r"⟩ = ⟨"/d/r"⟩ ∧ chainKey layered ⟨"d/e/f"⟩ = ⟨"/d/e/f"⟩ ∧
    chainKey layered ⟨"d/e/g"⟩ = ⟨"/d/e/g"⟩ := by
  obtain ⟨hr, hf, hg⟩ := locate_layered
  simp only [chainKey, FileTree.canonical?, hr, hf, hg]
  decide +kernel

theorem resolve_layered : (resolve layered .empty layeredRoot []).result =
    .ok (overParents [layeredLower.merge layeredUpper.withoutDirectives, layeredLower]
      layeredRoot.withoutDirectives) := by
  obtain ⟨-, hf, hg⟩ := load_layered
  obtain ⟨kr, kf, kg⟩ := chainKey_layered
  have hroot : layeredRoot.strings extendsKey = .ok ["e/f", "e/g"] ∧
      layeredRoot.strings pluginsKey = .ok [] ∧ layeredRoot.path = some ⟨"d/r"⟩ := ⟨rfl, rfl, rfl⟩
  have hupper : layeredUpper.strings extendsKey = .ok ["g"] ∧
      layeredUpper.strings pluginsKey = .ok [] := ⟨rfl, rfl⟩
  have hlower : layeredLower.strings extendsKey = .ok [] ∧
      layeredLower.strings pluginsKey = .ok [] ∧
      layeredLower.withoutDirectives = layeredLower := ⟨rfl, rfl, rfl⟩
  have hjoin : layeredRoot.directory.join ⟨"e/f"⟩ = ⟨"d/e/f"⟩ ∧
      layeredRoot.directory.join ⟨"e/g"⟩ = ⟨"d/e/g"⟩ ∧
      layeredUpper.directory.join ⟨"g"⟩ = ⟨"d/e/g"⟩ := by
    simpa only [lookedUp_eq] using lookedUp_layered
  have hsame : (Path.mk "/d/e/f").same ⟨"/d/r"⟩ = false ∧ (Path.mk "/d/e/g").same ⟨"/d/r"⟩ = false ∧
      (Path.mk "/d/e/g").same ⟨"/d/e/f"⟩ = false := by
    decide +kernel
  simp only [resolve, resolveWith, resolvePaths, resolvePlugins, resolveFile, hf, hg, kr, kf, kg,
    hroot, hupper, hlower, hjoin, hsame, overParents, Resolution.andThen, Resolution.ok,
    Option.map_some, Option.toList_some, List.any_cons, List.any_nil, Bool.or_self,
    Bool.false_eq_true, if_false, List.map_cons, List.map_nil, List.append_nil, List.nil_append,
    List.cons_append, List.foldl_nil]

theorem layers_layered : Layers layered .empty layeredRoot []
    [layeredLower, layeredUpper.withoutDirectives, layeredLower,
      layeredRoot.withoutDirectives] := by
  obtain ⟨-, hf, hg⟩ := load_layered
  obtain ⟨rf, rg, rfg⟩ := lookedUp_layered
  have hroot : references layered .empty layeredRoot [] = [⟨"d/e/f"⟩, ⟨"d/e/g"⟩] :=
    congrArg₂ (fun p q ↦ [p, q]) rf rg
  have hupper : references layered .empty layeredUpper [] = [⟨"d/e/g"⟩] :=
    congrArg (fun p ↦ [p]) rfg
  have hlower : Unfolds layered .empty (references layered .empty layeredLower []) [] := .nil
  have hbelow :
      Unfolds layered .empty (references layered .empty layeredUpper []) [layeredLower] := by
    rw [hupper]
    exact .cons hg hlower .nil
  refine ⟨[layeredLower, layeredUpper.withoutDirectives, layeredLower], ?_, rfl⟩
  rw [hroot]
  exact .cons hf hbelow (.cons hg hlower .nil)

theorem agree_layered : Agree
    [layeredLower, layeredUpper.withoutDirectives, layeredLower,
      layeredRoot.withoutDirectives] := by
  have hmap (k : String) (b : Bool) (path : List String) :
      Fields.HoldsMap [("a", .map [(k, .bool b)])] path ↔ path = [] ∨ path = ["a"] := by
    rw [Fields.HoldsMap]
    rcases path with _ | ⟨key, _ | ⟨key', rest⟩⟩
    · simp [Fields.at?, Value.at?]
    · by_cases ha : key = "a" <;> simp [Fields.at?_singleton, Fields.get?_cons, ha]
    · by_cases ha : key = "a" <;> by_cases hk : key' = k <;> cases rest <;>
        simp [Fields.at?_cons, Fields.get?_cons, Value.at?, ha, hk]
  have hlayer : ∀ m ∈ [layeredLower, layeredUpper.withoutDirectives, layeredLower,
      layeredRoot.withoutDirectives], ∃ k b, m.fields = [("a", .map [(k, .bool b)])] := by
    simp only [List.forall_mem_cons, List.not_mem_nil, IsEmpty.forall_iff, implies_true, and_true]
    exact ⟨⟨"z", true, rfl⟩, ⟨"x", true, rfl⟩, ⟨"z", true, rfl⟩, ⟨"y", false, rfl⟩⟩
  intro m hm m' hm' path hp hother
  obtain ⟨k, b, hfields⟩ := hlayer m hm
  obtain ⟨k', b', hfields'⟩ := hlayer m' hm'
  rw [hfields, hmap] at hp
  rw [hfields'] at hother
  exact ((hmap k' b' path).2 hp).not_holdsOther hother

theorem resolve_precedence_layered :
    load layered ⟨"d/r"⟩ = .ok layeredRoot ∧ layeredRoot.UniqueKeys ∧
    ∃ r l, (resolve layered .empty layeredRoot []).result = .ok r ∧
      Layers layered .empty layeredRoot [] l ∧
      l.map (·.path) = [some ⟨"d/e/g"⟩, some ⟨"d/e/f"⟩, some ⟨"d/e/g"⟩, some ⟨"d/r"⟩] ∧
      extendsKey ∉ r.fields.keys ∧ r.fields.at? ["a", "y"] = some (.bool false) ∧
      r = l.foldl merge empty := by
  have hload := load_layered.1
  have hc := uniqueKeys_of_load hload
  obtain ⟨-, hlayers⟩ := resolve_precedence hc resolve_layered
  obtain ⟨-, hextends, -, hkept, hfold⟩ := hlayers _ layers_layered
  exact ⟨hload, hc, _, _, resolve_layered, layers_layered, rfl, hextends,
    hkept "a" ["y"] _ (by decide) (by decide) rfl rfl, hfold agree_layered⟩

end Layered

end Configuration

end LintEngine
