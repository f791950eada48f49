import LintEngine.Proofs.Reading
import LintEngine.Proofs.References
import Mathlib.Data.List.Count
import Mathlib.Data.List.Nodup

namespace LintEngine

theorem FileTree.mem_nodes {tree : FileTree} {place : Place} {node : Node} (hne : place ≠ [])
    (h : tree.node? place = some node) : (place, node) ∈ tree.nodes := by
  rw [node?, if_neg (by simpa using hne)] at h
  obtain ⟨l₁, l₂, hs, -⟩ := List.lookup_eq_some_iff.1 h
  simp [hs]

namespace Configuration

variable (tree : FileTree) (plugins : Plugins) (c : Configuration) (extra : List String)

/-- `Trail visited path`: references lead from the configuration through the visited files to
`path`. -/
inductive Trail : List Path → Path → Prop
  | root {path : Path} : path ∈ references tree plugins c extra → Trail [] path
  | step {visited : List Path} {path next : Path} {d : Configuration} :
      Trail visited path → load tree path = .ok d → next ∈ references tree plugins d [] →
      Trail (visited ++ [path]) next

/-- The chain of paths that stand for the configuration itself, if it comes from a file, and for
the visited files. -/
def chainOf (visited : List Path) : List Path :=
  (c.path.map (chainKey tree)).toList ++ visited.map (chainKey tree)

def keysOf (visited : List Path) : List (List Path.Component) :=
  (chainOf tree c visited).map Path.components

/-- All files that trails lead to before they have come back to one of their files can be read, and
what they list is readable. -/
structure Sound : Prop where
  root : Readable plugins c extra
  file : ∀ visited path, Trail tree plugins c extra visited path → (keysOf tree c visited).Nodup →
    ∃ d, load tree path = .ok d ∧ Readable plugins d []

/-- No trail of references comes back to one of its files. -/
def NeverReturns : Prop :=
  ∀ visited path, Trail tree plugins c extra visited path →
    fileKey tree path ∉ keysOf tree c visited

/-- What a file refers to does not depend on the spelling in which it is reached. -/
def SpellingFree : Prop :=
  ∀ visited visited' path path' d d' next,
    Trail tree plugins c extra visited path → Trail tree plugins c extra visited' path' →
    fileKey tree path = fileKey tree path' → load tree path = .ok d → load tree path' = .ok d' →
    next ∈ references tree plugins d [] →
    ∃ next' ∈ references tree plugins d' [], fileKey tree next' = fileKey tree next

variable {tree plugins c extra} {visited : List Path} {path : Path}

theorem chainOf_append (visited : List Path) (path : Path) :
    chainOf tree c (visited ++ [path]) = chainOf tree c visited ++ [chainKey tree path] := by
  simp [chainOf]

theorem keysOf_append (visited : List Path) (path : Path) :
    keysOf tree c (visited ++ [path]) = keysOf tree c visited ++ [fileKey tree path] := by
  simp [keysOf, chainOf_append, fileKey]

theorem nodup_keysOf_append (hn : (keysOf tree c visited).Nodup)
    (hk : fileKey tree path ∉ keysOf tree c visited) :
    (keysOf tree c (visited ++ [path])).Nodup := by
  rw [keysOf_append]
  exact List.Nodup.append hn (List.nodup_singleton _) (by simpa using hk)

theorem nodup_keysOf_nil : (keysOf tree c []).Nodup := by
  cases ho : c.path <;> simp [keysOf, chainOf, ho]

theorem mem_keysOf (h : path ∈ visited) : fileKey tree path ∈ keysOf tree c visited := by
  refine List.mem_map.2 ⟨chainKey tree path, ?_, rfl⟩
  exact List.mem_append_right _ (List.mem_map_of_mem h)

theorem Trail.exists_load (h : Trail tree plugins c extra visited path) {p : Path}
    (hp : p ∈ visited) : ∃ d, load tree p = .ok d := by
  induction h with
  | root _ => simp at hp
  | step _ hd _ ih =>
    rcases List.mem_append.1 hp with hp | hp
    · exact ih hp
    · rw [List.mem_singleton] at hp
      exact ⟨_, hp ▸ hd⟩

theorem Trail.first (h : Trail tree plugins c extra visited path) :
    ∃ p ∈ references tree plugins c extra, (visited ++ [path]).head? = some p := by
  induction h with
  | root hp => exact ⟨_, hp, rfl⟩
  | step _ _ _ ih =>
    obtain ⟨p, hp, hh⟩ := ih
    refine ⟨p, hp, ?_⟩
    rw [List.head?_append, hh, Option.some_or]

theorem Trail.nodup (hr : NeverReturns tree plugins c extra)
    (h : Trail tree plugins c extra visited path) : (keysOf tree c visited).Nodup := by
  induction h with
  | root _ => exact nodup_keysOf_nil
  | step ht _ _ ih => exact nodup_keysOf_append ih (hr _ _ ht)

theorem exists_place_of_load {d : Configuration} (h : load tree path = .ok d) :
    ∃ place ∈ tree.nodes.map Prod.fst,
      fileKey tree path = (FileTree.pathOf place).components := by
  obtain ⟨place, node, hplace, hnode, hdir⟩ := locate_of_load h
  refine ⟨place, ?_, fileKey_of_locate hplace⟩
  have hne : place ≠ [] := by
    rintro rfl
    simp [FileTree.isDirectoryAt, FileTree.node?] at hdir
  exact List.mem_map.2 ⟨(place, node), FileTree.mem_nodes hne hnode, rfl⟩

/-- Files with different keys stand at different places, so there are no more of them than there
are places. -/
theorem length_le_nodes (hv : ∀ p ∈ visited, ∃ d, load tree p = .ok d)
    (hn : (visited.map (fileKey tree)).Nodup) : visited.length ≤ tree.nodes.length := by
  have hs : visited.map (fileKey tree) ⊆
      (tree.nodes.map Prod.fst).map (fun place ↦ (FileTree.pathOf place).components) := by
    intro k hk
    obtain ⟨p, hp, rfl⟩ := List.mem_map.1 hk
    obtain ⟨d, hd⟩ := hv p hp
    obtain ⟨place, hplace, hkey⟩ := exists_place_of_load hd
    exact List.mem_map.2 ⟨place, hplace, hkey.symm⟩
  simpa using (List.subperm_of_subset hn hs).length_le

/-- A bound above the number of files not yet visited is never reached. -/
theorem resolveFile_bound (base : List Path) {n m : ℕ}
    (hv : ∀ p ∈ visited, ∃ d, load tree p = .ok d)
    (hn : (visited.map (fileKey tree)).Nodup)
    (hbn : tree.nodes.length < n + visited.length)
    (hbm : tree.nodes.length < m + visited.length) :
    resolveFile tree plugins n (base ++ visited.map (chainKey tree)) =
      resolveFile tree plugins m (base ++ visited.map (chainKey tree)) := by
  have hle := length_le_nodes hv hn
  induction n generalizing m visited with
  | zero => omega
  | succ n ih =>
    cases m with
    | zero => omega
    | succ m =>
      funext path loaded
      rw [resolveFile, resolveFile]
      cases hd : load tree path with
      | error e => rfl
      | ok d =>
        dsimp only
        split
        · rfl
        · next hk =>
          have hfresh : fileKey tree path ∉ visited.map (fileKey tree) := by
            intro hmem
            obtain ⟨p, hp, he⟩ := List.mem_map.1 hmem
            refine hk (any_same_iff.2 (List.mem_map.2 ⟨chainKey tree p, ?_, he⟩))
            exact List.mem_append_right _ (List.mem_map_of_mem hp)
          have hv' : ∀ p ∈ visited ++ [path], ∃ d, load tree p = .ok d := by
            intro p hp
            rcases List.mem_append.1 hp with hp | hp
            · exact hv p hp
            · exact ⟨d, List.mem_singleton.1 hp ▸ hd⟩
          have hn' : ((visited ++ [path]).map (fileKey tree)).Nodup := by
            rw [List.map_append]
            exact List.Nodup.append hn (List.nodup_singleton _) (by simpa using hfresh)
          have hlen : (visited ++ [path]).length = visited.length + 1 := by simp
          have h := ih (m := m) hv' hn' (by omega) (by omega) (length_le_nodes hv' hn')
          rw [List.map_append, ← List.append_assoc] at h
          exact congrArg (fun f ↦ resolveWith tree plugins f d [] loaded) h

theorem resolveFile_cycle (hs : Sound tree plugins c extra) {n : ℕ} {e : Error}
    (ht : Trail tree plugins c extra visited path) (hn : (keysOf tree c visited).Nodup)
    (hb : tree.nodes.length < n + visited.length)
    (h : FailsWith (resolveFile tree plugins n (chainOf tree c visited)) path e) :
    ∃ visited' path', Trail tree plugins c extra visited' path' ∧
      (keysOf tree c visited').Nodup ∧ fileKey tree path' ∈ keysOf tree c visited' ∧
      e = .extendsCycle (chainOf tree c (visited' ++ [path'])) := by
  induction n generalizing visited path with
  | zero =>
    have hfiles : (visited.map (fileKey tree)).Nodup := by
      refine List.Sublist.nodup ?_ hn
      simp only [keysOf, chainOf, List.map_append, List.map_map]
      exact List.sublist_append_right _ _
    have hle := length_le_nodes (fun p hp ↦ ht.exists_load hp) hfiles
    omega
  | succ n ih =>
    obtain ⟨d, hd, hread⟩ := hs.file visited path ht hn
    rcases resolveFile_error hd h with ⟨hk, he⟩ | ⟨hk, loaded, hfail⟩
    · exact ⟨visited, path, ht, hn, hk, by rw [he, chainOf_append]⟩
    · obtain ⟨next, hnext, hfail⟩ := resolveWith_error hread hfail
      rw [← chainOf_append] at hfail
      refine ih (ht.step hd hnext) (nodup_keysOf_append hn hk) ?_ hfail
      simp only [List.length_append, List.length_singleton]
      omega

theorem Trail.resolves {n : ℕ} {r : Configuration}
    (h : (resolveWith tree plugins (resolveFile tree plugins n (chainOf tree c [])) c extra
      []).result = .ok r)
    (ht : Trail tree plugins c extra visited path) :
    ∃ m r', ResolvesTo (resolveFile tree plugins m (chainOf tree c visited)) path r' := by
  induction ht with
  | root hp =>
    obtain ⟨-, parents, hparents, -⟩ := resolveWith_ok h
    obtain ⟨r', hr'⟩ := exists_resolved hparents hp
    exact ⟨n, r', hr'⟩
  | step ht hd hnext ih =>
    obtain ⟨m, r', hr'⟩ := ih
    obtain ⟨m', d', loaded, -, hd', -, hw⟩ := resolveFile_ok hr'
    cases hd.symm.trans hd'
    obtain ⟨-, parents, hparents, -⟩ := resolveWith_ok hw
    obtain ⟨r'', hr''⟩ := exists_resolved hparents hnext
    rw [← chainOf_append] at hr''
    exact ⟨m', r'', hr''⟩

end Configuration

end LintEngine
