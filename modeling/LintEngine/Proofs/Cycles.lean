import LintEngine.Proofs.Spelling
import Mathlib.Data.List.Chain

namespace LintEngine.Configuration

variable (tree : FileTree) (plugins : Plugins) (c : Configuration) (extra : List String)

/-- The graph of files: an edge leads to each file that a file refers to, in any spelling in which
it is reached. -/
inductive Edge : List Path.Component → List Path.Component → Prop
  | root {origin path : Path} : c.path = some origin →
      path ∈ references tree plugins c extra → Edge (fileKey tree origin) (fileKey tree path)
  | file {visited : List Path} {path next : Path} {d : Configuration} :
      Trail tree plugins c extra visited path → load tree path = .ok d →
      next ∈ references tree plugins d [] → Edge (fileKey tree path) (fileKey tree next)

def Acyclic : Prop := ∀ key, ¬ Relation.TransGen (Edge tree plugins c extra) key key

variable {tree plugins c extra} {visited : List Path} {path : Path}

theorem Trail.isChain (ht : Trail tree plugins c extra visited path) :
    List.IsChain (Edge tree plugins c extra) (keysOf tree c (visited ++ [path])) := by
  induction ht with
  | @root path hp =>
    cases ho : c.path with
    | none => simp [keysOf, chainOf, ho]
    | some origin =>
      simp only [keysOf, chainOf, ho, Option.map_some, Option.toList_some, List.nil_append,
        List.map_cons, List.map_nil, List.cons_append]
      exact .cons_cons (.root ho hp) (.singleton _)
  | step ht hd hnext ih =>
    rw [keysOf_append]
    refine ih.append (.singleton _) (fun k hk k' hk' ↦ ?_)
    rw [keysOf_append, List.getLast?_concat, Option.mem_some_iff] at hk
    rw [List.head?_singleton, Option.mem_some_iff] at hk'
    rw [← hk, ← hk']
    exact .file ht hd hnext

theorem transGen_of_isChain {α : Type} {R : α → α → Prop} {l : List α} {a b : α}
    (h : List.IsChain R (l ++ [b])) (ha : a ∈ l) : Relation.TransGen R a b := by
  obtain ⟨l₁, l₂, rfl⟩ := List.append_of_mem ha
  rw [List.append_assoc] at h
  have h' := h.right_of_append
  clear h ha
  induction l₂ generalizing a with
  | nil => exact .single (List.isChain_pair.1 h')
  | cons x l₂ ih =>
    rw [List.cons_append, List.cons_append, List.isChain_cons_cons] at h'
    exact .head h'.1 (ih h'.2)

theorem Trail.cycle (ht : Trail tree plugins c extra visited path)
    (hk : fileKey tree path ∈ keysOf tree c visited) :
    Relation.TransGen (Edge tree plugins c extra) (fileKey tree path) (fileKey tree path) := by
  have h := ht.isChain
  rw [keysOf_append] at h
  exact transGen_of_isChain h hk

theorem NeverReturns.of_acyclic (h : Acyclic tree plugins c extra) :
    NeverReturns tree plugins c extra := fun _ _ ht hk ↦ h _ (ht.cycle hk)

section Spelling

variable (hs : SpellingFree tree plugins c extra)
  (hl : ∀ visited path, Trail tree plugins c extra visited path → ∃ d, load tree path = .ok d)
  (hr : NeverReturns tree plugins c extra)

include hs hl hr

theorem Trail.prolong_edge {key : List Path.Component}
    (ht : Trail tree plugins c extra visited path)
    (h : Edge tree plugins c extra (fileKey tree path) key) :
    ∃ next, Trail tree plugins c extra (visited ++ [path]) next ∧ fileKey tree next = key := by
  generalize hk : fileKey tree path = key' at h
  cases h with
  | root ho hp =>
    refine absurd ?_ (hr visited path ht)
    rw [hk]
    exact List.mem_map.2 ⟨_, List.mem_append_left _ (by simp [ho]), rfl⟩
  | file ht' hd' hnext =>
    obtain ⟨d, hd⟩ := hl visited path ht
    obtain ⟨next, hmem, hkey⟩ := hs _ _ _ _ _ _ _ ht' ht hk.symm hd' hd hnext
    exact ⟨next, ht.step hd hmem, hkey⟩

theorem Trail.prolong {key : List Path.Component} (ht : Trail tree plugins c extra visited path)
    (h : Relation.ReflTransGen (Edge tree plugins c extra) (fileKey tree path) key) :
    ∃ more next, Trail tree plugins c extra (visited ++ more) next ∧ fileKey tree next = key := by
  induction h with
  | refl => exact ⟨[], path, by simpa using ht, rfl⟩
  | tail _ hedge ih =>
    obtain ⟨more, next, ht', rfl⟩ := ih
    obtain ⟨next', ht'', hkey⟩ := ht'.prolong_edge hs hl hr hedge
    exact ⟨more ++ [next], next', by simpa using ht'', hkey⟩

theorem NeverReturns.acyclic : Acyclic tree plugins c extra := by
  intro key hcycle
  obtain ⟨key', hedge, hrest⟩ := Relation.TransGen.head'_iff.1 hcycle
  cases hedge with
  | root ho hp =>
    obtain ⟨more, next, ht, hkey⟩ := (Trail.root hp).prolong hs hl hr hrest
    refine hr _ _ ht ?_
    rw [hkey]
    exact List.mem_map.2 ⟨_, List.mem_append_left _ (by simp [ho]), rfl⟩
  | file ht hd hnext =>
    obtain ⟨more, next, ht', hkey⟩ := (ht.step hd hnext).prolong hs hl hr hrest
    refine hr _ _ ht' ?_
    rw [hkey]
    exact mem_keysOf (by simp)

end Spelling

theorem resolve_eq_resolveWith : resolve tree plugins c extra = resolveWith tree plugins
    (resolveFile tree plugins (tree.nodes.length + 2) (chainOf tree c [])) c extra [] := by
  simp [resolve, chainOf]

theorem resolve_error (hs : Sound tree plugins c extra) {e : Error}
    (h : (resolve tree plugins c extra).result = .error e) :
    ∃ visited path, Trail tree plugins c extra visited path ∧
      (keysOf tree c visited).Nodup ∧ fileKey tree path ∈ keysOf tree c visited ∧
      e = .extendsCycle (chainOf tree c (visited ++ [path])) := by
  rw [resolve_eq_resolveWith] at h
  obtain ⟨path, hp, hfail⟩ := resolveWith_error hs.root h
  exact resolveFile_cycle hs (.root hp) nodup_keysOf_nil
    (by simp only [List.length_nil]; omega) hfail

theorem resolve_ok_iff (hs : Sound tree plugins c extra) :
    (∃ r, (resolve tree plugins c extra).result = .ok r) ↔ NeverReturns tree plugins c extra := by
  constructor
  · rintro ⟨r, h⟩ visited path ht
    rw [resolve_eq_resolveWith] at h
    obtain ⟨m, r', hr'⟩ := ht.resolves h
    obtain ⟨-, -, -, -, -, hk, -⟩ := resolveFile_ok hr'
    exact hk
  · intro hn
    cases h : (resolve tree plugins c extra).result with
    | ok r => exact ⟨r, rfl⟩
    | error e =>
      obtain ⟨visited, path, ht, -, hk, -⟩ := resolve_error hs h
      exact absurd hk (hn visited path ht)

theorem resolve_bound {n : ℕ} (hn : tree.nodes.length + 2 ≤ n) :
    resolveWith tree plugins (resolveFile tree plugins n (chainOf tree c [])) c extra [] =
      resolve tree plugins c extra := by
  have h : resolveFile tree plugins n (chainOf tree c []) =
      resolveFile tree plugins (tree.nodes.length + 2) (chainOf tree c []) :=
    resolveFile_bound _ (by simp) (by simp) (by simp only [List.length_nil]; omega)
      (by simp only [List.length_nil]; omega)
  rw [resolve_eq_resolveWith, h]

variable (tree plugins c extra) in
/-- A chain that can be reported: it follows the edges of the graph from the file of the
configuration, or else from a file that the configuration refers to, and ends as soon as it comes
back to one of its files. -/
structure CycleReport (chain : List Path) : Prop where
  edges : List.IsChain (Edge tree plugins c extra) (chain.map Path.components)
  origin : ∀ path, c.path = some path → chain.head? = some (chainKey tree path)
  parent : c.path = none →
    ∃ path ∈ references tree plugins c extra, chain.head? = some (chainKey tree path)
  returns : ∃ front last, chain = front ++ [last] ∧
    last.components ∈ front.map Path.components ∧ (front.map Path.components).Nodup

theorem Trail.cycleReport (ht : Trail tree plugins c extra visited path)
    (hn : (keysOf tree c visited).Nodup) (hk : fileKey tree path ∈ keysOf tree c visited) :
    CycleReport tree plugins c extra (chainOf tree c (visited ++ [path])) where
  edges := ht.isChain
  origin := fun origin ho ↦ by simp [chainOf, ho]
  parent := fun ho ↦ by
    obtain ⟨first, hfirst, hhead⟩ := ht.first
    refine ⟨first, hfirst, ?_⟩
    rw [chainOf, ho, Option.map_none, Option.toList_none, List.nil_append, List.head?_map, hhead,
      Option.map_some]
  returns := ⟨chainOf tree c visited, chainKey tree path, chainOf_append visited path, hk, hn⟩

/-- Cycle detection. Where all files can be read, resolving ends, and it gives a result exactly if
no trail of references comes back to one of its files. This is so if the graph of files has no
cycle, and without links only then. Else such a trail is reported. -/
theorem cycle_detection (hs : Sound tree plugins c extra) :
    (∀ n, tree.nodes.length + 2 ≤ n →
      resolveWith tree plugins (resolveFile tree plugins n (chainOf tree c [])) c extra [] =
        resolve tree plugins c extra) ∧
    ((∃ r, (resolve tree plugins c extra).result = .ok r) ↔ NeverReturns tree plugins c extra) ∧
    (Acyclic tree plugins c extra → ∃ r, (resolve tree plugins c extra).result = .ok r) ∧
    (tree.WithoutLinks →
      ((∃ r, (resolve tree plugins c extra).result = .ok r) ↔ Acyclic tree plugins c extra)) ∧
    ((¬ ∃ r, (resolve tree plugins c extra).result = .ok r) →
      ∃ chain, (resolve tree plugins c extra).result = .error (.extendsCycle chain) ∧
        CycleReport tree plugins c extra chain) := by
  have hiff := resolve_ok_iff hs
  refine ⟨fun n ↦ resolve_bound, hiff, fun ha ↦ hiff.2 (.of_acyclic ha), fun ht ↦ ?_, fun hno ↦ ?_⟩
  · refine hiff.trans ⟨fun hr ↦ ?_, .of_acyclic⟩
    have hl : ∀ visited path, Trail tree plugins c extra visited path →
        ∃ d, load tree path = .ok d := by
      intro visited path htrail
      obtain ⟨d, hd, -⟩ := hs.file visited path htrail (htrail.nodup hr)
      exact ⟨d, hd⟩
    exact hr.acyclic (spellingFree ht hl) hl
  · cases h : (resolve tree plugins c extra).result with
    | ok r => exact absurd ⟨r, h⟩ hno
    | error e =>
      obtain ⟨visited, path, ht, hn, hk, rfl⟩ := resolve_error hs h
      exact ⟨_, rfl, ht.cycleReport hn hk⟩

def extending (file : String) (path : Option Path) : Configuration :=
  ⟨[(extendsKey, .string file)], path⟩

theorem readable_extending (file : String) (path : Option Path) :
    Readable plugins (extending file path) [] where
  files := rfl
  names := rfl
  registered := fun name hname ↦ by cases hname

theorem references_extending (file : String) (path : Option Path) :
    references tree plugins (extending file path) [] =
      [(extending file path).lookedUp file] := rfl

section Neighbours

/-- Two files in different directories that extend each other. The spelling grows each time that
one is reached from the other. -/
def neighbours : FileTree where
  nodes := [(["f"], .file "\x7b\"extends\":\"a/f\"\x7d".toUTF8), (["a"], .directory),
    (["a", "f"], .file "\x7b\"extends\":\"../f\"\x7d".toUTF8)]
  workingPlace := []

theorem neighbours_withoutLinks : neighbours.WithoutLinks :=
  .of_nodes (by simp [neighbours]) (by decide) (by simp [neighbours])

theorem locate_neighbours :
    neighbours.locate .follow ⟨"f"⟩ = .ok ["f"] ∧
    neighbours.locate .follow ⟨"a/f"⟩ = .ok ["a", "f"] ∧
    neighbours.locate .follow ⟨"a/../f"⟩ = .ok ["f"] := by
  simp only [FileTree.locate_eq_ok neighbours_withoutLinks]
  decide

theorem load_neighbours :
    load neighbours ⟨"f"⟩ = .ok (extending "a/f" (some ⟨"f"⟩)) ∧
    load neighbours ⟨"a/f"⟩ = .ok (extending "../f" (some ⟨"a/f"⟩)) ∧
    load neighbours ⟨"a/../f"⟩ = .ok (extending "a/f" (some ⟨"a/../f"⟩)) := by
  have hr : Jsonc.readText "\x7b\"extends\":\"a/f\"\x7d".toList =
      .ok (some (.map [(extendsKey, .string "a/f")])) := by
    simp only [String.reduceToList]
    rfl
  have hr' : Jsonc.readText "\x7b\"extends\":\"../f\"\x7d".toList =
      .ok (some (.map [(extendsKey, .string "../f")])) := by
    simp only [String.reduceToList]
    rfl
  obtain ⟨hf, haf, hback⟩ := locate_neighbours
  exact ⟨load_json rfl hf rfl hr, load_json rfl haf rfl hr',
    load_json rfl hback rfl hr⟩

theorem references_neighbours :
    references neighbours .empty (extending "f" none) [] = [⟨"f"⟩] ∧
    references neighbours .empty (extending "a/f" (some ⟨"f"⟩)) [] = [⟨"a/f"⟩] ∧
    references neighbours .empty (extending "../f" (some ⟨"a/f"⟩)) [] = [⟨"a/../f"⟩] := by
  simp only [references_extending]
  decide +kernel

theorem fileKey_neighbours :
    fileKey neighbours ⟨"a/../f"⟩ = fileKey neighbours ⟨"f"⟩ := by
  obtain ⟨hf, -, hback⟩ := locate_neighbours
  rw [fileKey_of_locate hback, fileKey_of_locate hf]

theorem neighbours_sound : Sound neighbours .empty (extending "f" none) [] := by
  obtain ⟨hf, haf, hback⟩ := load_neighbours
  obtain ⟨hroot, rf, raf⟩ := references_neighbours
  have htrail : ∀ visited path, Trail neighbours .empty (extending "f" none) [] visited path →
      (keysOf neighbours (extending "f" none) visited).Nodup →
      (visited, path) ∈ ([([], ⟨"f"⟩), ([⟨"f"⟩], ⟨"a/f"⟩), ([⟨"f"⟩, ⟨"a/f"⟩], ⟨"a/../f"⟩)] :
        List (List Path × Path)) := by
    intro visited path ht hn
    induction ht with
    | root hp =>
      rw [hroot, List.mem_singleton] at hp
      simp [hp]
    | step _ hd hnext ih =>
      rw [keysOf_append] at hn
      have hmem := ih (List.nodup_append.1 hn).1
      simp only [List.mem_cons, Prod.mk.injEq, List.not_mem_nil, or_false] at hmem
      rcases hmem with ⟨rfl, rfl⟩ | ⟨rfl, rfl⟩ | ⟨rfl, rfl⟩
      · cases hf.symm.trans hd
        rw [rf, List.mem_singleton] at hnext
        simp [hnext]
      · cases haf.symm.trans hd
        rw [raf, List.mem_singleton] at hnext
        simp [hnext]
      · rw [fileKey_neighbours] at hn
        refine absurd rfl ((List.nodup_append.1 hn).2.2 _ (mem_keysOf ?_) _ List.mem_cons_self)
        exact List.mem_cons_self
  refine ⟨readable_extending _ _, fun visited path ht hn ↦ ?_⟩
  have hmem := htrail visited path ht hn
  simp only [List.mem_cons, Prod.mk.injEq, List.not_mem_nil, or_false] at hmem
  rcases hmem with ⟨-, rfl⟩ | ⟨-, rfl⟩ | ⟨-, rfl⟩
  · exact ⟨_, hf, readable_extending _ _⟩
  · exact ⟨_, haf, readable_extending _ _⟩
  · exact ⟨_, hback, readable_extending _ _⟩

theorem cycle_detection_neighbours :
    neighbours.WithoutLinks ∧ Sound neighbours .empty (extending "f" none) [] ∧
    ¬ Acyclic neighbours .empty (extending "f" none) [] ∧
    ∃ chain,
      (resolve neighbours .empty (extending "f" none) []).result = .error (.extendsCycle chain) ∧
      CycleReport neighbours .empty (extending "f" none) [] chain := by
  obtain ⟨hf, haf, -⟩ := load_neighbours
  obtain ⟨hroot, rf, raf⟩ := references_neighbours
  obtain ⟨-, hiff, -, hacyclic, hreport⟩ := cycle_detection neighbours_sound
  have htrail : Trail neighbours .empty (extending "f" none) [] [⟨"f"⟩, ⟨"a/f"⟩] ⟨"a/../f"⟩ :=
    ((Trail.root (by rw [hroot]; simp)).step hf (by rw [rf]; simp)).step haf (by rw [raf]; simp)
  have hno : ¬ ∃ r, (resolve neighbours .empty (extending "f" none) []).result = .ok r := by
    intro hok
    refine hiff.1 hok _ _ htrail ?_
    rw [fileKey_neighbours]
    exact mem_keysOf List.mem_cons_self
  exact ⟨neighbours_withoutLinks, neighbours_sound,
    fun ha ↦ hno ((hacyclic neighbours_withoutLinks).2 ha), hreport hno⟩

end Neighbours

section CrossedLinks

/-- Two files that extend what is called `d/x` where they are found. The files `f` and `d/x` are
found again below `b`, by way of links and the other way round. -/
def crossedLinks : FileTree where
  nodes := [(["f"], .file "\x7b\"extends\":\"d/x\"\x7d".toUTF8), (["d"], .directory),
    (["d", "x"], .file "\x7b\"extends\":\"d/x\"\x7d".toUTF8), (["d", "d"], .directory),
    (["d", "d", "x"], .file "\x7b\x7d".toUTF8), (["b"], .directory), (["b", "h"], .link ⟨"../d/x"⟩),
    (["b", "d"], .directory), (["b", "d", "x"], .link ⟨"../../f"⟩), (["b", "d", "d"], .directory),
    (["b", "d", "d", "x"], .file "\x7b\x7d".toUTF8)]
  workingPlace := []

def overCrossedLinks : Configuration :=
  ⟨[(extendsKey, .array [.string "f", .string "b/h"])], none⟩

theorem locate_crossedLinks :
    crossedLinks.locate .follow ⟨"f"⟩ = .ok ["f"] ∧
    crossedLinks.locate .follow ⟨"d/x"⟩ = .ok ["d", "x"] ∧
    crossedLinks.locate .follow ⟨"d/d/x"⟩ = .ok ["d", "d", "x"] ∧
    crossedLinks.locate .follow ⟨"b/h"⟩ = .ok ["d", "x"] ∧
    crossedLinks.locate .follow ⟨"b/d/x"⟩ = .ok ["f"] ∧
    crossedLinks.locate .follow ⟨"b/d/d/x"⟩ = .ok ["b", "d", "d", "x"] := by
  have hseg : FileTree.segments ⟨"f"⟩ = ["f"] ∧ FileTree.segments ⟨"d/x"⟩ = ["d", "x"] ∧
      FileTree.segments ⟨"d/d/x"⟩ = ["d", "d", "x"] ∧ FileTree.segments ⟨"b/h"⟩ = ["b", "h"] ∧
      FileTree.segments ⟨"b/d/x"⟩ = ["b", "d", "x"] ∧
      FileTree.segments ⟨"b/d/d/x"⟩ = ["b", "d", "d", "x"] ∧
      FileTree.segments ⟨"../d/x"⟩ = ["..", "d", "x"] ∧
      FileTree.segments ⟨"../../f"⟩ = ["..", "..", "f"] :=
    ⟨rfl, rfl, rfl, rfl, rfl, rfl, rfl, rfl⟩
  have hname : ∀ s ∈ ["f", "d", "x", "b", "h"], ¬ FileTree.nameLimit < s.utf8ByteSize := by decide
  have hpath : ∀ s ∈ ["f", "d/x", "d/d/x", "b/h", "b/d/x", "b/d/d/x", "../d/x", "../../f"],
      s ≠ "" ∧ '\x00' ∉ s.toList ∧ ¬ FileTree.pathLimit < s.utf8ByteSize ∧
      (Path.mk s).isAbsolute = false := by
    decide
  simp only [List.forall_mem_cons] at hname hpath
  simp [FileTree.locate, FileTree.walkTo, FileTree.isDirectoryAt, FileTree.node?, crossedLinks,
    List.lookup_cons, FileTree.linkLimit, hseg, hname, hpath]

theorem load_crossedLinks :
    load crossedLinks ⟨"f"⟩ = .ok (extending "d/x" (some ⟨"f"⟩)) ∧
    load crossedLinks ⟨"d/x"⟩ = .ok (extending "d/x" (some ⟨"d/x"⟩)) ∧
    load crossedLinks ⟨"d/d/x"⟩ = .ok ⟨[], some ⟨"d/d/x"⟩⟩ ∧
    load crossedLinks ⟨"b/h"⟩ = .ok (extending "d/x" (some ⟨"b/h"⟩)) ∧
    load crossedLinks ⟨"b/d/x"⟩ = .ok (extending "d/x" (some ⟨"b/d/x"⟩)) ∧
    load crossedLinks ⟨"b/d/d/x"⟩ = .ok ⟨[], some ⟨"b/d/d/x"⟩⟩ := by
  have hr : Jsonc.readText "\x7b\"extends\":\"d/x\"\x7d".toList =
      .ok (some (.map [(extendsKey, .string "d/x")])) := by
    simp only [String.reduceToList]
    rfl
  have hr' : Jsonc.readText "\x7b\x7d".toList = .ok (some (.map [])) := by
    simp only [String.reduceToList]
    rfl
  obtain ⟨hf, hx, hdx, hh, hbx, hbdx⟩ := locate_crossedLinks
  exact ⟨load_json rfl hf rfl hr, load_json rfl hx rfl hr,
    load_json rfl hdx rfl hr', load_json rfl hh rfl hr,
    load_json rfl hbx rfl hr, load_json rfl hbdx rfl hr'⟩

theorem references_crossedLinks :
    references crossedLinks .empty overCrossedLinks [] = [⟨"f"⟩, ⟨"b/h"⟩] ∧
    references crossedLinks .empty (extending "d/x" (some ⟨"f"⟩)) [] = [⟨"d/x"⟩] ∧
    references crossedLinks .empty (extending "d/x" (some ⟨"d/x"⟩)) [] = [⟨"d/d/x"⟩] ∧
    references crossedLinks .empty (extending "d/x" (some ⟨"b/h"⟩)) [] = [⟨"b/d/x"⟩] ∧
    references crossedLinks .empty (extending "d/x" (some ⟨"b/d/x"⟩)) [] = [⟨"b/d/d/x"⟩] := by
  have hroot : references crossedLinks .empty overCrossedLinks [] =
      [overCrossedLinks.lookedUp "f", overCrossedLinks.lookedUp "b/h"] := rfl
  rw [hroot]
  simp only [references_extending]
  decide +kernel

theorem fileKey_crossedLinks :
    fileKey crossedLinks ⟨"f"⟩ = [.root, .name "f"] ∧
    fileKey crossedLinks ⟨"d/x"⟩ = [.root, .name "d", .name "x"] ∧
    fileKey crossedLinks ⟨"d/d/x"⟩ = [.root, .name "d", .name "d", .name "x"] ∧
    fileKey crossedLinks ⟨"b/h"⟩ = [.root, .name "d", .name "x"] ∧
    fileKey crossedLinks ⟨"b/d/x"⟩ = [.root, .name "f"] ∧
    fileKey crossedLinks ⟨"b/d/d/x"⟩ = [.root, .name "b", .name "d", .name "d", .name "x"] := by
  obtain ⟨hf, hx, hdx, hh, hbx, hbdx⟩ := locate_crossedLinks
  rw [fileKey_of_locate hf, fileKey_of_locate hx, fileKey_of_locate hdx, fileKey_of_locate hh,
    fileKey_of_locate hbx, fileKey_of_locate hbdx]
  decide +kernel

theorem trail_crossedLinks {visited : List Path} {path : Path}
    (ht : Trail crossedLinks .empty overCrossedLinks [] visited path) :
    (visited, path) ∈ ([([], ⟨"f"⟩), ([⟨"f"⟩], ⟨"d/x"⟩), ([⟨"f"⟩, ⟨"d/x"⟩], ⟨"d/d/x"⟩),
      ([], ⟨"b/h"⟩), ([⟨"b/h"⟩], ⟨"b/d/x"⟩), ([⟨"b/h"⟩, ⟨"b/d/x"⟩], ⟨"b/d/d/x"⟩)] :
      List (List Path × Path)) := by
  obtain ⟨hroot, rf, rx, rh, rbx⟩ := references_crossedLinks
  obtain ⟨hf, hx, hdx, hh, hbx, hbdx⟩ := load_crossedLinks
  induction ht with
  | root hp =>
    rw [hroot] at hp
    simp at hp ⊢
    exact hp
  | step _ hd hnext ih =>
    simp only [List.mem_cons, Prod.mk.injEq, List.not_mem_nil, or_false] at ih
    rcases ih with ⟨rfl, rfl⟩ | ⟨rfl, rfl⟩ | ⟨rfl, rfl⟩ | ⟨rfl, rfl⟩ | ⟨rfl, rfl⟩ | ⟨rfl, rfl⟩
    · cases hf.symm.trans hd
      rw [rf, List.mem_singleton] at hnext
      simp [hnext]
    · cases hx.symm.trans hd
      rw [rx, List.mem_singleton] at hnext
      simp [hnext]
    · cases hdx.symm.trans hd
      cases hnext
    · cases hh.symm.trans hd
      rw [rh, List.mem_singleton] at hnext
      simp [hnext]
    · cases hbx.symm.trans hd
      rw [rbx, List.mem_singleton] at hnext
      simp [hnext]
    · cases hbdx.symm.trans hd
      cases hnext

theorem crossedLinks_sound : Sound crossedLinks .empty overCrossedLinks [] := by
  obtain ⟨hf, hx, hdx, hh, hbx, hbdx⟩ := load_crossedLinks
  refine ⟨⟨rfl, rfl, fun name hname ↦ by cases hname⟩, fun visited path ht _ ↦ ?_⟩
  have hempty : ∀ path, Readable .empty ⟨[], some path⟩ [] :=
    fun path ↦ ⟨rfl, rfl, fun name hname ↦ by cases hname⟩
  have hmem := trail_crossedLinks ht
  simp only [List.mem_cons, Prod.mk.injEq, List.not_mem_nil, or_false] at hmem
  rcases hmem with ⟨-, rfl⟩ | ⟨-, rfl⟩ | ⟨-, rfl⟩ | ⟨-, rfl⟩ | ⟨-, rfl⟩ | ⟨-, rfl⟩
  · exact ⟨_, hf, readable_extending _ _⟩
  · exact ⟨_, hx, readable_extending _ _⟩
  · exact ⟨_, hdx, hempty _⟩
  · exact ⟨_, hh, readable_extending _ _⟩
  · exact ⟨_, hbx, readable_extending _ _⟩
  · exact ⟨_, hbdx, hempty _⟩

theorem crossedLinks_neverReturns : NeverReturns crossedLinks .empty overCrossedLinks [] := by
  obtain ⟨kf, kx, kdx, kh, kbx, kbdx⟩ := fileKey_crossedLinks
  intro visited path ht
  have hkeys : keysOf crossedLinks overCrossedLinks visited =
      visited.map (fileKey crossedLinks) := by
    simp [keysOf, chainOf, overCrossedLinks, fileKey]
  rw [hkeys]
  have hmem := trail_crossedLinks ht
  simp only [List.mem_cons, Prod.mk.injEq, List.not_mem_nil, or_false] at hmem
  rcases hmem with ⟨rfl, rfl⟩ | ⟨rfl, rfl⟩ | ⟨rfl, rfl⟩ | ⟨rfl, rfl⟩ | ⟨rfl, rfl⟩ | ⟨rfl, rfl⟩ <;>
    simp [kf, kx, kdx, kh, kbx, kbdx]

/-- With links the graph of files can have a cycle that no trail runs through: what a file refers
to depends on the spelling in which it is reached. -/
theorem resolve_ok_of_cycle :
    Sound crossedLinks .empty overCrossedLinks [] ∧
    ¬ Acyclic crossedLinks .empty overCrossedLinks [] ∧
    ∃ r, (resolve crossedLinks .empty overCrossedLinks []).result = .ok r := by
  obtain ⟨hroot, rf, -, rh, -⟩ := references_crossedLinks
  obtain ⟨hf, -, -, hh, -, -⟩ := load_crossedLinks
  obtain ⟨kf, kx, -, kh, kbx, -⟩ := fileKey_crossedLinks
  have hforth : Edge crossedLinks .empty overCrossedLinks [] (fileKey crossedLinks ⟨"f"⟩)
      (fileKey crossedLinks ⟨"d/x"⟩) :=
    .file (.root (by simp [hroot])) hf (by simp [rf])
  have hback : Edge crossedLinks .empty overCrossedLinks [] (fileKey crossedLinks ⟨"b/h"⟩)
      (fileKey crossedLinks ⟨"b/d/x"⟩) :=
    .file (.root (by simp [hroot])) hh (by simp [rh])
  rw [kf, kx] at hforth
  rw [kh, kbx] at hback
  exact ⟨crossedLinks_sound, fun ha ↦ ha _ (.tail (.single hforth) hback),
    (resolve_ok_iff crossedLinks_sound).2 crossedLinks_neverReturns⟩

end CrossedLinks

end LintEngine.Configuration
