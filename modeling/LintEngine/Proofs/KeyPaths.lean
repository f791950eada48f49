import LintEngine.Proofs.Merge

namespace LintEngine

namespace Value

variable {v : Value}

theorem at?_nil (v : Value) : v.at? [] = some v := by rw [Value.at?]

theorem at?_cons_of_not_map (h : v.asMap? = none) (key : String) (rest : List String) :
    v.at? (key :: rest) = none := by
  cases v with
  | map fields => simp [asMap?] at h
  | _ => simp [Value.at?]

theorem at?_append (v : Value) (p q : List String) :
    v.at? (p ++ q) = (v.at? p).bind fun u ↦ u.at? q := by
  induction p generalizing v with
  | nil => simp [at?_nil]
  | cons key rest ih =>
    cases v with
    | map fields =>
      rw [List.cons_append, Value.at?, Value.at?, Option.bind_assoc]
      simp only [ih]
    | _ => simp [Value.at?]

theorem exists_map_of_at? {path : List String} {inner : Fields}
    (h : v.at? path = some (.map inner)) : ∃ fields, v = .map fields := by
  cases hv : v.asMap? with
  | some fields =>
    cases v with
    | map fields => exact ⟨fields, rfl⟩
    | _ => simp [asMap?] at hv
  | none =>
    cases path with
    | nil =>
      rw [at?_nil] at h
      exact ⟨inner, Option.some.inj h⟩
    | cons key rest =>
      rw [at?_cons_of_not_map hv] at h
      cases h

theorem UniqueKeys.at? (h : v.UniqueKeys) {path : List String} {u : Value}
    (hu : v.at? path = some u) : u.UniqueKeys := by
  induction path generalizing v with
  | nil =>
    rw [at?_nil] at hu
    exact Option.some.inj hu ▸ h
  | cons key rest ih =>
    cases v with
    | map fields =>
      rw [Value.at?] at hu
      obtain ⟨w, hw, hu⟩ := Option.bind_eq_some_iff.1 hu
      exact ih (Fields.UniqueKeys.get? h hw) hu
    | _ => simp [Value.at?] at hu

end Value

namespace Fields

open Value

variable {a b fields lower upper inner : Fields} {path q : List String} {key : String} {v : Value}

theorem HoldsOther.at?_eq_none (h : fields.HoldsOther q) (hq : q <+: path) (hne : q ≠ path) :
    fields.at? path = none := by
  obtain ⟨v, hv, hother⟩ := h
  obtain ⟨rest, rfl⟩ := hq
  cases rest with
  | nil => simp at hne
  | cons key rest =>
    unfold Fields.at? at hv ⊢
    rw [Value.at?_append, hv, Option.bind_some, at?_cons_of_not_map hother]

theorem HoldsOther.merge (hb : UniqueKeys b) (h : b.HoldsOther q) : (merge a b).HoldsOther q := by
  obtain ⟨v, hv, hother⟩ := h
  exact ⟨v, at?_merge_of_other hb hv hother, hother⟩

theorem exists_get?_of_at? (h : fields.at? (key :: path) = some (.map inner)) :
    ∃ next : Fields, get? fields key = some (.map next) ∧ next.at? path = some (.map inner) := by
  rw [at?_cons] at h
  obtain ⟨v, hv, hrest⟩ := Option.bind_eq_some_iff.1 h
  obtain ⟨next, rfl⟩ := exists_map_of_at? hrest
  exact ⟨next, hv, hrest⟩

theorem get?_merge_maps (hb : UniqueKeys b) (hl : get? a key = some (.map lower))
    (hu : get? b key = some (.map upper)) :
    get? (merge a b) key = some (.map (merge lower upper)) := by
  rw [get?_merge_of_some hb.nodup hu, hl, mergeOver_maps]

theorem get?_merge_map (hb : UniqueKeys b) (hl : ∀ lower, get? a key ≠ some (.map lower))
    (hu : get? b key = some (.map upper)) : get? (merge a b) key = some (.map upper) := by
  rw [get?_merge_of_some hb.nodup hu, mergeOver_eq_self fun lower _ h _ ↦ hl lower h]

theorem at?_merge_of_maps (hb : UniqueKeys b) (hl : a.at? path = some (.map lower))
    (hu : b.at? path = some (.map upper)) :
    (merge a b).at? path = some (.map (merge lower upper)) := by
  induction path generalizing a b with
  | nil =>
    cases hl
    cases hu
    rfl
  | cons key rest ih =>
    obtain ⟨a', ha', hl⟩ := exists_get?_of_at? hl
    obtain ⟨b', hb', hu⟩ := exists_get?_of_at? hu
    rw [at?_cons_map (get?_merge_maps hb ha' hb')]
    exact ih (hb.get? hb') hl hu

theorem at?_merge_of_map (hb : UniqueKeys b) (hl : ¬ a.HoldsMap path)
    (hu : b.at? path = some (.map upper)) : (merge a b).at? path = some (.map upper) := by
  induction path generalizing a b with
  | nil => exact absurd ⟨a, rfl⟩ hl
  | cons key rest ih =>
    obtain ⟨b', hb', hu⟩ := exists_get?_of_at? hu
    by_cases hmap : ∃ a', get? a key = some (.map a')
    · obtain ⟨a', ha'⟩ := hmap
      rw [at?_cons_map (get?_merge_maps hb ha' hb')]
      exact ih (hb.get? hb') (fun h ↦ hl (h.cons ha')) hu
    · rw [at?_cons_map (get?_merge_map hb (fun a' ha' ↦ hmap ⟨a', ha'⟩) hb')]
      exact hu

/-- The lower map shows through where the upper one has nothing, and nothing on the way either that
would be in its place. -/
theorem at?_merge_of_none (hb : UniqueKeys b) (hu : b.at? path = none)
    (hway : ∀ q, q <+: path → q ≠ path → ¬ b.HoldsOther q) :
    (merge a b).at? path = a.at? path := by
  induction path generalizing a b with
  | nil => cases hu
  | cons key rest ih =>
    cases hkey : get? b key with
    | none => rw [at?_cons, at?_cons, get?_merge_of_none hb.nodup hkey]
    | some w =>
      have hrest : w.at? rest = none := by
        rw [at?_cons, hkey, Option.bind_some] at hu
        exact hu
      have hne : rest ≠ [] := by
        rintro rfl
        rw [at?_nil] at hrest
        cases hrest
      -- The chain goes on, so what the key leads to in the upper map is a map.
      obtain ⟨b', rfl⟩ : ∃ b', w = .map b' := by
        by_contra hmap
        refine hway [key] (List.prefix_append [key] rest) (by simpa using hne.symm) ?_
        exact holdsOther_singleton hkey fun b' h ↦ hmap ⟨b', h⟩
      by_cases hmap : ∃ a', get? a key = some (.map a')
      · obtain ⟨a', ha'⟩ := hmap
        rw [at?_cons_map (get?_merge_maps hb ha' hkey), at?_cons_map ha']
        refine ih (hb.get? hkey) hrest fun q hq hqne hother ↦ ?_
        exact hway (key :: q) (List.cons_prefix_cons.2 ⟨rfl, hq⟩) (by simpa using hqne)
          (hother.cons hkey)
      · have hnone : a.at? (key :: rest) = none := by
          rw [at?_cons]
          refine Option.bind_eq_none_iff.2 fun u hukey ↦ ?_
          obtain ⟨next, more, rfl⟩ := List.exists_cons_of_ne_nil hne
          refine at?_cons_of_not_map ?_ next more
          cases u with
          | map a' => exact absurd ⟨a', hukey⟩ hmap
          | _ => rfl
        rw [at?_cons_map (get?_merge_map hb (fun a' ha' ↦ hmap ⟨a', ha'⟩) hkey), hnone]
        exact hrest

/-- An array in a merged map is one of the upper map, or one of the lower map over which nothing is
laid. -/
theorem at?_merge_array {items : List Value} (hb : UniqueKeys b)
    (h : (merge a b).at? path = some (.array items)) :
    b.at? path = some (.array items) ∨
      b.at? path = none ∧ a.at? path = some (.array items) := by
  rcases at?_merge hb h with ha | hu | ⟨-, -, inner, hinner⟩
  · cases hu : b.at? path with
    | none => exact .inr ⟨rfl, ha⟩
    | some v =>
      by_cases hmap : ∃ upper, v = .map upper
      · obtain ⟨upper, rfl⟩ := hmap
        have hl : ¬ a.HoldsMap path := by
          rintro ⟨lower, hlower⟩
          cases ha.symm.trans hlower
        cases h.symm.trans (at?_merge_of_map hb hl hu)
      · have hother : v.asMap? = none := by
          cases v with
          | map upper => exact absurd ⟨upper, rfl⟩ hmap
          | _ => rfl
        have hv := (at?_merge_of_other (a := a) hb hu hother).symm.trans h
        exact .inl hv
  · exact .inl hu
  · cases hinner

end Fields

namespace Configuration

/-- What a merged configuration holds at the end of a chain of keys: what the upper one holds there,
if it is no map, and nothing beyond that; a map of the upper one, if the lower one has none; what
the lower one holds, where the upper one has nothing; and where both have maps, a map with the keys
of the lower one in their places and the new ones of the upper one after them. No key is there
twice, and an array is never made up of two. -/
theorem merge_at (a b : Configuration) (ha : a.UniqueKeys) (hb : b.UniqueKeys) :
    (a.merge b).UniqueKeys ∧ ∀ path : List String,
      (∀ v, b.fields.at? path = some v → v.asMap? = none →
        (a.merge b).fields.at? path = some v) ∧
      (∀ q, q <+: path → q ≠ path → b.fields.HoldsOther q →
        (a.merge b).fields.at? path = none) ∧
      (∀ upper, b.fields.at? path = some (.map upper) → ¬ a.fields.HoldsMap path →
        (a.merge b).fields.at? path = some (.map upper)) ∧
      (b.fields.at? path = none → (∀ q, q <+: path → q ≠ path → ¬ b.fields.HoldsOther q) →
        (a.merge b).fields.at? path = a.fields.at? path) ∧
      (∀ lower upper, a.fields.at? path = some (.map lower) →
        b.fields.at? path = some (.map upper) → ∃ inner,
          (a.merge b).fields.at? path = some (.map inner) ∧
          Fields.keys inner =
            Fields.keys lower ++ (Fields.keys upper).filter (· ∉ Fields.keys lower)) ∧
      ∀ items, (a.merge b).fields.at? path = some (.array items) →
        b.fields.at? path = some (.array items) ∨
          b.fields.at? path = none ∧ a.fields.at? path = some (.array items) := by
  refine ⟨Fields.UniqueKeys.merge ha hb, fun path ↦ ⟨?_, ?_, ?_, ?_, ?_, ?_⟩⟩
  · exact fun v hv hother ↦ Fields.at?_merge_of_other hb hv hother
  · exact fun q hq hne hother ↦ (hother.merge hb).at?_eq_none hq hne
  · exact fun upper hu hl ↦ Fields.at?_merge_of_map hb hl hu
  · exact fun hu hway ↦ Fields.at?_merge_of_none hb hu hway
  · intro lower upper hl hu
    have hupper : Fields.UniqueKeys upper := Value.UniqueKeys.at? hb hu
    exact ⟨Fields.merge lower upper, Fields.at?_merge_of_maps hb hl hu,
      Fields.keys_merge hupper.nodup⟩
  · exact fun items h ↦ Fields.at?_merge_array hb h

def nestedLower : Configuration :=
  ⟨[("k", .map [("a", .int 1), ("s", .map [("x", .int 1)])]), ("n", .map [("x", .int 1)])], none⟩

def nestedUpper : Configuration :=
  ⟨[("n", .null), ("k", .map [("t", .array []), ("s", .map [("y", .int 2), ("x", .int 3)])])], none⟩

theorem merge_at_nested :
    nestedLower.UniqueKeys ∧ nestedUpper.UniqueKeys ∧
    (nestedLower.merge nestedUpper).UniqueKeys ∧
    (nestedLower.merge nestedUpper).fields.at? ["k", "s", "x"] = some (.int 3) ∧
    (nestedLower.merge nestedUpper).fields.at? ["n", "x"] = none ∧
    (nestedLower.merge nestedUpper).fields.at? ["k", "a"] = some (.int 1) ∧
    ∃ inner, (nestedLower.merge nestedUpper).fields.at? ["k", "s"] = some (.map inner) ∧
      Fields.keys inner = ["x", "y"] := by
  have ha : nestedLower.UniqueKeys := by
    simp [nestedLower, UniqueKeys, Fields.UniqueKeys, Value.uniqueKeys_map, Fields.keys]
  have hb : nestedUpper.UniqueKeys := by
    simp [nestedUpper, UniqueKeys, Fields.UniqueKeys, Value.uniqueKeys_map, Fields.keys,
      Value.UniqueKeys.array]
  obtain ⟨hunique, hat⟩ := merge_at nestedLower nestedUpper ha hb
  refine ⟨ha, hb, hunique, (hat ["k", "s", "x"]).1 _ rfl rfl, ?_, ?_, ?_⟩
  · exact (hat ["n", "x"]).2.1 ["n"] (by decide) (by decide) ⟨.null, rfl, rfl⟩
  · refine (hat ["k", "a"]).2.2.2.1 rfl fun q hq hne ↦ ?_
    -- The proper prefixes are the empty chain and `k`, and both lead to maps.
    rcases List.prefix_cons_iff.1 hq with rfl | ⟨rest, rfl, hrest⟩
    · exact Fields.HoldsMap.not_holdsOther ⟨_, rfl⟩
    · rcases List.prefix_cons_iff.1 hrest with rfl | ⟨more, rfl, hmore⟩
      · exact Fields.HoldsMap.not_holdsOther ⟨_, rfl⟩
      · simp [List.prefix_nil.1 hmore] at hne
  · obtain ⟨inner, hinner, hkeys⟩ := (hat ["k", "s"]).2.2.2.2.1 _ _ rfl rfl
    exact ⟨inner, hinner, hkeys⟩

end Configuration

end LintEngine
