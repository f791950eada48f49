import LintEngine.Proofs.Components
import LintEngine.Proofs.Spelling

namespace LintEngine

namespace Path

variable {start : Path} {names : List String}

def below (start : Path) (names : List String) : Path :=
  names.foldl (fun p name ↦ p.join ⟨name⟩) start

theorem components_of_isName {s : String} (h : IsName s) :
    (Path.mk s).components = [.name s] := by
  have hnames : ∀ t ∈ [s], IsName t := by simpa using h
  have hs : Path.mk s = ⟨"/".intercalate [s]⟩ := by rw [String.intercalate_singleton]
  rw [hs, components_intercalate (fun t ht ↦ (hnames t ht).no_slash) (fun first rest he ↦ ?_),
    filterMap_inner_of_names hnames, List.map_singleton]
  exact (hnames first (he ▸ List.mem_cons_self)).not_skips

theorem isAbsolute_of_isName {s : String} (h : IsName s) : (Path.mk s).isAbsolute = false := by
  rw [← Bool.not_eq_true, isAbsolute_iff_mem, components_of_isName h]
  simp

theorem components_below (hs : start.text ≠ "") (h : ∀ s ∈ names, IsName s) :
    (start.below names).components = start.components ++ names.map .name := by
  induction names generalizing start with
  | nil => simp [below]
  | cons name rest ih =>
    rw [List.forall_mem_cons] at h
    have hjoin : (start.join ⟨name⟩).components = start.components ++ [.name name] := by
      rw [components_join hs (isAbsolute_of_isName h.1), components_of_isName h.1]
      simp
    have htext : (start.join ⟨name⟩).text ≠ "" := by
      rw [Ne, ← components_eq_nil_iff, hjoin]
      simp
    have hbelow : start.below (name :: rest) = (start.join ⟨name⟩).below rest := rfl
    rw [hbelow, ih htext h.2, hjoin]
    simp

theorem below_injective {names' : List String} (hs : start.text ≠ "") (h : ∀ s ∈ names, IsName s)
    (h' : ∀ s ∈ names', IsName s)
    (he : (start.below names).normalize.components = (start.below names').normalize.components) :
    names = names' := by
  have hinj : Function.Injective (Component.name) := fun a b hab ↦ by simpa using hab
  rw [components_normalize, components_normalize, components_below hs h,
    components_below hs h'] at he
  by_cases hcurrent : start.components = [.current]
  · -- The `.` is dropped unless no name follows, and no name is spelled like it.
    rw [hcurrent] at he
    cases names with
    | nil =>
      cases names' with
      | nil => rfl
      | cons name' rest' => simp [dropCurrent] at he
    | cons name rest =>
      cases names' with
      | nil => simp [dropCurrent] at he
      | cons name' rest' => exact List.map_injective_iff.2 hinj he
  · have hne : start.components ≠ [] := by rwa [Ne, components_eq_nil_iff]
    rw [dropCurrent_append hne hcurrent, dropCurrent_append hne hcurrent] at he
    exact List.map_injective_iff.2 hinj (List.append_cancel_left he)

end Path

namespace FileTree

open LintEngine.Path

variable {tree : FileTree} {start path : Path} {place other : Place} {names : List String}
  {node : Node} {entry : Entry}

/-- A tree without links that holds each place once, under names that a directory can hold. -/
structure Proper (tree : FileTree) : Prop extends tree.WithoutLinks where
  distinct : (tree.nodes.map Prod.fst).Nodup
  names : ∀ entry ∈ tree.nodes, ∀ name ∈ entry.1, IsName name

/-- A walk from `start` meets `node` under a path, written without leading `.` components. -/
def Meets (tree : FileTree) (start path : Path) (node : Node) : Prop :=
  ∃ place names, tree.locate .follow start = .ok place ∧
    tree.node? (place ++ names) = some node ∧ path = (start.below names).normalize

theorem below?_eq_some_iff : below? place other = some names ↔ other = place ++ names := by
  fun_induction below? place other with
  | case1 place => simp [eq_comm]
  | case2 a as => simp
  | case3 as b bs ih => simp [ih]
  | case4 a as b bs hne => simp [Ne.symm hne]

theorem node?_eq_some_iff (ht : tree.Proper) (hne : place ≠ []) :
    tree.node? place = some node ↔ (place, node) ∈ tree.nodes := by
  refine ⟨mem_nodes hne, fun h ↦ ?_⟩
  obtain ⟨l₁, l₂, hs⟩ := List.append_of_mem h
  rw [node?, if_neg (by simpa using hne), List.lookup_eq_some_iff]
  refine ⟨l₁, l₂, hs, fun p hp ↦ ?_⟩
  have hnodup := ht.distinct
  rw [hs, List.map_append, List.map_cons, List.nodup_append] at hnodup
  have hdiff := hnodup.2.2 p.1 (List.mem_map_of_mem hp) place List.mem_cons_self
  simpa using Ne.symm hdiff

theorem names_of_node? (ht : tree.Proper) (h : tree.node? (place ++ names) = some node) :
    ∀ s ∈ names, IsName s := by
  intro s hs
  have hne : place ++ names ≠ [] := by
    rintro he
    rw [(List.append_eq_nil_iff.1 he).2] at hs
    cases hs
  exact ht.names _ (mem_nodes hne h) s (List.mem_append_right place hs)

theorem isDirectoryAt_of_below (ht : tree.WithoutLinks) (hne : names ≠ [])
    (h : tree.node? (place ++ names) = some node) : tree.isDirectoryAt place = true := by
  induction names using List.reverseRecOn generalizing node with
  | nil => exact absurd rfl hne
  | append_singleton names name ih =>
    rw [← List.append_assoc] at h
    have hdir := ht.in_directories _ _ _ h
    cases names with
    | nil => rwa [List.append_nil] at hdir
    | cons first rest =>
      cases hn : tree.node? (place ++ first :: rest) with
      | none => simp [isDirectoryAt, hn] at hdir
      | some node' => exact ih (List.cons_ne_nil first rest) hn

theorem mem_entriesBelow (ht : tree.Proper) :
    entry ∈ tree.entriesBelow start place ↔ ∃ names node, names ≠ [] ∧
      tree.node? (place ++ names) = some node ∧
      entry = ⟨start.below names, Node.isFile node⟩ := by
  simp only [entriesBelow, List.mem_filterMap]
  constructor
  · rintro ⟨⟨other, node⟩, hmem, he⟩
    dsimp only at he
    split at he
    · cases he
    · cases he
    · next names hne hbelow =>
      cases he
      rw [below?_eq_some_iff] at hbelow
      subst hbelow
      refine ⟨names, node, hne, (node?_eq_some_iff ht ?_).2 hmem, rfl⟩
      exact fun he ↦ hne (List.append_eq_nil_iff.1 he).2
  · rintro ⟨names, node, hne, hnode, rfl⟩
    refine ⟨(place ++ names, node), mem_nodes (by simp [hne]) hnode, ?_⟩
    dsimp only
    rw [below?_eq_some_iff.2 rfl]
    cases names with
    | nil => exact absurd rfl hne
    | cons first rest => rfl

theorem walkTo_keepLink (ht : tree.WithoutLinks) (links : ℕ) (place : Place)
    (route : List String) :
    tree.walkTo .keepLink links place route = tree.walkTo .follow links place route := by
  induction route generalizing place with
  | nil => rw [walkTo, walkTo]
  | cons name rest ih =>
    rw [walkTo, walkTo]
    simp only [ih]
    cases hn : tree.node? (place ++ [name]) with
    | none => rfl
    | some node =>
      cases node with
      | link target => exact absurd hn (ht.no_links _ target)
      | _ => rfl

theorem locate_keepLink (ht : tree.WithoutLinks) (p : Path) :
    tree.locate .keepLink p = tree.locate .follow p := by
  simp only [locate, walkTo_keepLink ht]

theorem text_ne_of_locate {last : LastName} (h : tree.locate last start = .ok place) :
    start.text ≠ "" := by
  rintro he
  simp [locate, he] at h

/-- A walk meets what stands at and below the place that it starts from. -/
theorem mem_walk (ht : tree.Proper) :
    entry ∈ tree.walk start ↔ ∃ place names node, tree.locate .follow start = .ok place ∧
      tree.node? (place ++ names) = some node ∧
      entry = ⟨start.below names, Node.isFile node⟩ := by
  unfold walk
  rw [locate_keepLink ht.toWithoutLinks]
  cases hl : tree.locate .follow start with
  | error e => simp
  | ok place =>
    have hsplit : (∃ place' names node, (.ok place : Except FileError Place) = .ok place' ∧
        tree.node? (place' ++ names) = some node ∧ entry = ⟨start.below names, Node.isFile node⟩) ↔
        (∃ node, tree.node? place = some node ∧ entry = ⟨start, Node.isFile node⟩) ∨
          entry ∈ tree.entriesBelow start place := by
      rw [mem_entriesBelow ht]
      constructor
      · rintro ⟨_, names, node, ⟨⟩, hnode, rfl⟩
        cases names with
        | nil => exact .inl ⟨node, by rwa [List.append_nil] at hnode, rfl⟩
        | cons name rest => exact .inr ⟨name :: rest, node, List.cons_ne_nil _ _, hnode, rfl⟩
      · rintro (⟨node, hnode, rfl⟩ | ⟨names, node, -, hnode, rfl⟩)
        · exact ⟨place, [], node, rfl, by rwa [List.append_nil], rfl⟩
        · exact ⟨place, names, node, rfl, hnode, rfl⟩
    have hnone : tree.isDirectoryAt place = false → entry ∉ tree.entriesBelow start place := by
      intro hdir hmem
      obtain ⟨names, node, hne, hnode, -⟩ := (mem_entriesBelow ht).1 hmem
      rw [isDirectoryAt_of_below ht.toWithoutLinks hne hnode] at hdir
      cases hdir
    rw [hsplit]
    dsimp only
    cases hn : tree.node? place with
    | none => simp [hnone (by simp [isDirectoryAt, hn])]
    | some node =>
      cases node with
      | link target => exact absurd hn (ht.no_links place target)
      | directory => simp [Node.isFile]
      | file content => simp [hnone (by simp [isDirectoryAt, hn])]
      | device => simp [hnone (by simp [isDirectoryAt, hn])]

end FileTree

end LintEngine
