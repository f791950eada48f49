import LintEngine.Configuration.Basic
import LintEngine.Proofs.Fields

namespace LintEngine

namespace Value

variable {v : Value}

def at? : Value → List String → Option Value
  | v, [] => some v
  | .map fields, key :: rest => (Fields.get? fields key).bind fun v ↦ v.at? rest
  | _, _ :: _ => none

theorem mergeOver_none (v : Value) : mergeOver none v = v := by
  cases v <;> simp [mergeOver]

theorem mergeOver_maps (lower upper : Fields) :
    mergeOver (some (.map lower)) (.map upper) = .map (Fields.merge lower upper) := by
  rw [mergeOver]

theorem mergeOver_eq_self {before : Option Value}
    (h : ∀ lower upper, before = some (.map lower) → v ≠ .map upper) :
    mergeOver before v = v := by
  cases v with
  | map upper =>
    rw [mergeOver]
    exact fun lower hl ↦ h lower upper hl rfl
  | _ => simp [mergeOver]

end Value

namespace Fields

open Value

variable {a b c fields : Fields} {path : List String}

theorem merge_nil (a : Fields) : merge a [] = a := by rw [merge]

theorem merge_cons (a : Fields) (entry : String × Value) (rest : Fields) :
    merge a (entry :: rest) =
      merge (insert a entry.1 (mergeOver (get? a entry.1) entry.2)) rest := by
  rw [merge]

theorem mem_keys_insert {key k : String} {value : Value} :
    k ∈ keys (insert fields key value) ↔ k ∈ keys fields ∨ k = key := by
  rw [keys_insert]
  split
  · next h =>
    refine ⟨.inl, ?_⟩
    rintro (hk | rfl)
    · exact hk
    · exact h
  · simp

theorem mem_keys_merge {k : String} : k ∈ keys (merge a b) ↔ k ∈ keys a ∨ k ∈ keys b := by
  induction b generalizing a with
  | nil => simp [merge_nil]
  | cons entry rest ih =>
    rw [merge_cons, ih, mem_keys_insert, keys_cons, List.mem_cons, or_assoc]

/-- The keys of the lower map keep their places, and the new ones of the upper map follow in their
order. -/
theorem keys_merge (hb : (keys b).Nodup) :
    keys (merge a b) = keys a ++ (keys b).filter (· ∉ keys a) := by
  induction b generalizing a with
  | nil => simp [merge_nil]
  | cons entry rest ih =>
    rw [keys_cons, List.nodup_cons] at hb
    rw [merge_cons, ih hb.2, keys_insert, keys_cons]
    by_cases h : entry.1 ∈ keys a
    · simp [h]
    · have hr : (keys rest).filter (· ∉ keys a ++ [entry.1]) =
          (keys rest).filter (· ∉ keys a) := by
        refine List.filter_congr (fun k hk ↦ ?_)
        have hne : k ≠ entry.1 := fun he ↦ hb.1 (he ▸ hk)
        simp [hne]
      rw [if_neg h, hr, List.filter_cons_of_pos (by simpa using h), List.append_assoc]
      rfl

theorem get?_merge (hb : (keys b).Nodup) (k : String) :
    get? (merge a b) k = ((get? b k).map (mergeOver (get? a k))).or (get? a k) := by
  induction b generalizing a with
  | nil => simp [merge_nil]
  | cons entry rest ih =>
    rw [keys_cons, List.nodup_cons] at hb
    rw [merge_cons, ih hb.2, get?_insert, get?_cons]
    by_cases h : k = entry.1
    · subst h
      simp [get?_eq_none_iff.2 hb.1]
    · simp [h]

theorem get?_merge_of_none (hb : (keys b).Nodup) {k : String} (h : get? b k = none) :
    get? (merge a b) k = get? a k := by
  simp [get?_merge hb, h]

theorem get?_merge_of_some (hb : (keys b).Nodup) {k : String} {v : Value}
    (h : get? b k = some v) : get? (merge a b) k = some (mergeOver (get? a k) v) := by
  simp [get?_merge hb, h]

theorem nodup_keys_merge (ha : (keys a).Nodup) (hb : (keys b).Nodup) :
    (keys (merge a b)).Nodup := by
  rw [keys_merge hb]
  refine List.Nodup.append ha (hb.filter _) (fun k hk hk' ↦ ?_)
  simpa [hk] using List.of_mem_filter hk'

theorem UniqueKeys.merge {a b : Fields} (ha : UniqueKeys a) (hb : UniqueKeys b) :
    UniqueKeys (merge a b) := by
  refine .of_get? (nodup_keys_merge ha.nodup hb.nodup) (fun k v hv ↦ ?_)
  cases hk : Fields.get? b k with
  | none =>
    rw [get?_merge_of_none hb.nodup hk] at hv
    exact ha.get? hv
  | some u =>
    rw [get?_merge_of_some hb.nodup hk, Option.some.injEq] at hv
    subst hv
    have hu := hb.get? hk
    by_cases hm : ∃ lower upper, Fields.get? a k = some (.map lower) ∧ u = .map upper
    · obtain ⟨lower, upper, hl, rfl⟩ := hm
      have hlt := sizeOf_get?_lt hk
      rw [hl, mergeOver_maps]
      exact UniqueKeys.merge (ha.get? hl) hu
    · rw [mergeOver_eq_self (fun lower upper hl he ↦ hm ⟨lower, upper, hl, he⟩)]
      exact hu
termination_by sizeOf b
decreasing_by
  simp only [Value.map.sizeOf_spec] at hlt
  omega

theorem nil_merge (hb : (keys b).Nodup) : merge [] b = b := by
  refine ext_get? (nodup_keys_merge List.nodup_nil hb) ?_ (fun k ↦ ?_)
  · simp [keys_merge hb]
  · cases h : get? b k <;> simp [get?_merge hb, h, mergeOver_none]

theorem merge_self {a : Fields} (ha : UniqueKeys a) : merge a a = a := by
  refine ext_get? (nodup_keys_merge ha.nodup ha.nodup) ?_ (fun k ↦ ?_)
  · rw [keys_merge ha.nodup, List.filter_eq_nil_iff.2 (by simp), List.append_nil]
  · cases hk : get? a k with
    | none => rw [get?_merge_of_none ha.nodup hk, hk]
    | some v =>
      rw [get?_merge_of_some ha.nodup hk, hk]
      by_cases hm : ∃ inner, v = .map inner
      · obtain ⟨inner, rfl⟩ := hm
        have hlt := sizeOf_get?_lt hk
        have hi : UniqueKeys inner := ha.get? hk
        rw [mergeOver_maps, merge_self hi]
      · rw [mergeOver_eq_self (fun _ upper _ he ↦ hm ⟨upper, he⟩)]
termination_by sizeOf a
decreasing_by
  simp only [Value.map.sizeOf_spec] at hlt
  omega

def at? (fields : Fields) (path : List String) : Option Value := (Value.map fields).at? path

/-- A chain of keys leads to a map. -/
def HoldsMap (fields : Fields) (path : List String) : Prop :=
  ∃ inner, fields.at? path = some (.map inner)

def HoldsOther (fields : Fields) (path : List String) : Prop :=
  ∃ v, fields.at? path = some v ∧ v.asMap? = none

theorem at?_cons (fields : Fields) (key : String) (rest : List String) :
    fields.at? (key :: rest) = (get? fields key).bind fun v ↦ v.at? rest := by
  rw [at?, Value.at?]

theorem at?_singleton (fields : Fields) (key : String) : fields.at? [key] = get? fields key := by
  cases h : get? fields key <;> simp [at?_cons, h, Value.at?]

theorem at?_cons_map {key : String} {inner : Fields} (h : get? fields key = some (.map inner))
    (rest : List String) : fields.at? (key :: rest) = inner.at? rest := by
  rw [at?_cons, h]
  rfl

theorem HoldsMap.cons {key : String} {inner : Fields}
    (h : get? fields key = some (.map inner)) (hm : inner.HoldsMap path) :
    fields.HoldsMap (key :: path) := by
  obtain ⟨m, hm⟩ := hm
  exact ⟨m, (at?_cons_map h path).trans hm⟩

theorem HoldsOther.cons {key : String} {inner : Fields}
    (h : get? fields key = some (.map inner)) (ho : inner.HoldsOther path) :
    fields.HoldsOther (key :: path) := by
  obtain ⟨v, hv, hn⟩ := ho
  exact ⟨v, (at?_cons_map h path).trans hv, hn⟩

theorem holdsMap_singleton {key : String} {inner : Fields}
    (h : get? fields key = some (.map inner)) : fields.HoldsMap [key] :=
  ⟨inner, (at?_singleton fields key).trans h⟩

theorem holdsOther_singleton {key : String} {v : Value} (h : get? fields key = some v)
    (hv : ∀ inner, v ≠ .map inner) : fields.HoldsOther [key] := by
  refine ⟨v, (at?_singleton fields key).trans h, ?_⟩
  cases v with
  | map inner => exact absurd rfl (hv inner)
  | _ => rfl

theorem HoldsMap.not_holdsOther (hm : fields.HoldsMap path) : ¬ fields.HoldsOther path := by
  rintro ⟨v, hv, hn⟩
  obtain ⟨inner, hi⟩ := hm
  cases hv.symm.trans hi
  simp [asMap?] at hn

theorem at?_merge_of_other {v : Value} (hb : UniqueKeys b) (h : b.at? path = some v)
    (hv : v.asMap? = none) : (merge a b).at? path = some v := by
  induction path generalizing a b with
  | nil =>
    cases h
    simp [asMap?] at hv
  | cons key rest ih =>
    rw [at?_cons] at h ⊢
    obtain ⟨u, hu, hrest⟩ := Option.bind_eq_some_iff.1 h
    rw [get?_merge_of_some hb.nodup hu, Option.bind_some]
    by_cases hm : ∃ lower upper, get? a key = some (.map lower) ∧ u = .map upper
    · obtain ⟨lower, upper, hl, rfl⟩ := hm
      rw [hl, mergeOver_maps]
      exact ih (hb.get? hu) hrest
    · rw [mergeOver_eq_self (fun lower upper hl he ↦ hm ⟨lower, upper, hl, he⟩)]
      exact hrest

/-- What a chain of keys leads to in a merged map comes from one of the two maps, or is itself
merged from maps. -/
theorem at?_merge {v : Value} (hb : UniqueKeys b) (h : (merge a b).at? path = some v) :
    a.at? path = some v ∨ b.at? path = some v ∨
      a.HoldsMap path ∧ b.HoldsMap path ∧ ∃ inner, v = .map inner := by
  induction path generalizing a b with
  | nil =>
    cases h
    exact .inr (.inr ⟨⟨a, rfl⟩, ⟨b, rfl⟩, _, rfl⟩)
  | cons key rest ih =>
    rw [at?_cons] at h
    obtain ⟨u, hu, hrest⟩ := Option.bind_eq_some_iff.1 h
    cases hkb : get? b key with
    | none =>
      rw [get?_merge_of_none hb.nodup hkb] at hu
      exact .inl (by rw [at?_cons, hu, Option.bind_some, hrest])
    | some w =>
      rw [get?_merge_of_some hb.nodup hkb, Option.some.injEq] at hu
      by_cases hm : ∃ lower upper, get? a key = some (.map lower) ∧ w = .map upper
      · obtain ⟨lower, upper, hl, rfl⟩ := hm
        rw [hl, mergeOver_maps] at hu
        subst hu
        rw [at?_cons_map hl, at?_cons_map hkb]
        rcases ih (hb.get? hkb) hrest with h | h | ⟨ha, hb', hv⟩
        · exact .inl h
        · exact .inr (.inl h)
        · exact .inr (.inr ⟨.cons hl ha, .cons hkb hb', hv⟩)
      · rw [mergeOver_eq_self (fun lower upper hl he ↦ hm ⟨lower, upper, hl, he⟩)] at hu
        exact .inr (.inl (by rw [at?_cons, hkb, hu, Option.bind_some, hrest]))

theorem HoldsMap.of_merge (hb : UniqueKeys b) (h : (merge a b).HoldsMap path) :
    a.HoldsMap path ∨ b.HoldsMap path := by
  obtain ⟨inner, hi⟩ := h
  rcases at?_merge hb hi with h | h | ⟨ha, -, -⟩
  · exact .inl ⟨inner, h⟩
  · exact .inr ⟨inner, h⟩
  · exact .inl ha

/-- Nothing but a map lies between two maps. -/
def Joins (a b c : Fields) : Prop :=
  ∀ path, a.HoldsMap path → c.HoldsMap path → ¬ b.HoldsOther path

theorem Joins.inner {key : String} {a' b' c' : Fields} (h : Joins a b c)
    (ha : get? a key = some (.map a')) (hb : get? b key = some (.map b'))
    (hc : get? c key = some (.map c')) : Joins a' b' c' := fun path ha' hc' hb' ↦
  h (key :: path) (.cons ha ha') (.cons hc hc') (.cons hb hb')

/-- Merging is associative as long as nothing but a map lies between two maps. -/
theorem merge_assoc {a b c : Fields} (ha : UniqueKeys a) (hb : UniqueKeys b)
    (hc : UniqueKeys c) (h : Joins a b c) : merge (merge a b) c = merge a (merge b c) := by
  have hbc := hb.merge hc
  refine ext_get? ((ha.merge hb).merge hc).nodup ?_ (fun k ↦ ?_)
  · simp only [keys_merge hb.nodup, keys_merge hc.nodup, keys_merge hbc.nodup, List.filter_append,
      List.filter_filter, List.append_assoc, List.append_cancel_left_eq]
    refine List.filter_congr (fun k _ ↦ ?_)
    by_cases hk : k ∈ keys a <;> simp [hk]
  · cases hkc : get? c k with
    | none =>
      rw [get?_merge_of_none hc.nodup hkc, get?_merge hb.nodup, get?_merge hbc.nodup,
        get?_merge_of_none hc.nodup hkc]
    | some vc =>
      rw [get?_merge_of_some hc.nodup hkc,
        get?_merge_of_some hbc.nodup (get?_merge_of_some hc.nodup hkc), Option.some.injEq]
      cases hkb : get? b k with
      | none => rw [get?_merge_of_none hb.nodup hkb, mergeOver_none]
      | some vb =>
        rw [get?_merge_of_some hb.nodup hkb]
        by_cases hvc : ∃ fc, vc = .map fc
        · obtain ⟨fc, rfl⟩ := hvc
          by_cases hvb : ∃ fb, vb = .map fb
          · obtain ⟨fb, rfl⟩ := hvb
            by_cases hva : ∃ fa, get? a k = some (.map fa)
            · obtain ⟨fa, hka⟩ := hva
              have hlt := sizeOf_get?_lt hkc
              rw [hka]
              simp only [mergeOver_maps]
              rw [merge_assoc (ha.get? hka) (hb.get? hkb) (hc.get? hkc) (h.inner hka hkb hkc)]
            · have hself (upper : Fields) : mergeOver (get? a k) (.map upper) = .map upper :=
                mergeOver_eq_self (fun fa _ hfa _ ↦ hva ⟨fa, hfa⟩)
              rw [hself, mergeOver_maps, hself]
          · have hb' : ∀ fb, vb ≠ .map fb := fun fb he ↦ hvb ⟨fb, he⟩
            have hva : ∀ fa, get? a k ≠ some (.map fa) := fun fa hka ↦
              h [k] (holdsMap_singleton hka) (holdsMap_singleton hkc)
                (holdsOther_singleton hkb hb')
            rw [mergeOver_eq_self (fun _ fb _ ↦ hb' fb),
              mergeOver_eq_self (fun fb _ hfb _ ↦ hb' fb (Option.some.inj hfb)),
              mergeOver_eq_self (fun fa _ hfa _ ↦ hva fa hfa)]
        · have hc' : ∀ fc, vc ≠ .map fc := fun fc he ↦ hvc ⟨fc, he⟩
          rw [mergeOver_eq_self (fun _ fc _ ↦ hc' fc), mergeOver_eq_self (fun _ fc _ ↦ hc' fc),
            mergeOver_eq_self (fun _ fc _ ↦ hc' fc)]
termination_by sizeOf c
decreasing_by
  simp only [Value.map.sizeOf_spec] at hlt
  omega

end Fields

namespace Configuration

open Fields (Joins keys at?_cons at?_cons_map get?_cons)

def UniqueKeys (c : Configuration) : Prop := c.fields.UniqueKeys

/-- Merging is idempotent, absorbs what has been merged before on either side, and is associative
unless something other than a map lies between two maps. Where a configuration comes from is
associative in any case. -/
theorem merge_laws (a b c : Configuration) (ha : a.UniqueKeys) (hb : b.UniqueKeys)
    (hc : c.UniqueKeys) :
    a.merge a = a ∧
    (a.merge b).merge b = a.merge b ∧
    a.merge (a.merge b) = a.merge b ∧
    ((∀ path, a.fields.HoldsMap path → c.fields.HoldsMap path → ¬ b.fields.HoldsOther path) →
      (a.merge b).merge c = a.merge (b.merge c)) ∧
    ((a.merge b).merge c).path = (a.merge (b.merge c)).path := by
  have hpath : ((a.merge b).merge c).path = (a.merge (b.merge c)).path := Option.or_assoc.symm
  have hright := Fields.merge_assoc ha hb hb (fun _ _ h ↦ h.not_holdsOther)
  have hleft := Fields.merge_assoc ha ha hb (fun _ h _ ↦ h.not_holdsOther)
  rw [Fields.merge_self hb] at hright
  rw [Fields.merge_self ha] at hleft
  refine ⟨?_, ?_, ?_, fun h ↦ ?_, hpath⟩
  · simp only [merge, Fields.merge_self ha, Option.or_self]
  · simp only [merge, hright, ← Option.or_assoc, Option.or_self]
  · simp only [merge, ← hleft, Option.or_assoc, Option.or_self]
  · have hfields := Fields.merge_assoc ha hb hc h
    simp only [merge] at hpath ⊢
    rw [hfields, hpath]

theorem merge_laws_nested :
    Joins [("k", .map [("x", .int 1)]), ("n", .map [])] [("k", .map [("y", .int 2)]), ("n", .null)]
      [("n", .int 3), ("k", .map [("x", .map [])])] ∧
    (merge (merge ⟨[("k", .map [("x", .int 1)]), ("n", .map [])], none⟩
        ⟨[("k", .map [("y", .int 2)]), ("n", .null)], some ⟨"b"⟩⟩)
      ⟨[("n", .int 3), ("k", .map [("x", .map [])])], none⟩) =
    merge ⟨[("k", .map [("x", .int 1)]), ("n", .map [])], none⟩
      (merge ⟨[("k", .map [("y", .int 2)]), ("n", .null)], some ⟨"b"⟩⟩
        ⟨[("n", .int 3), ("k", .map [("x", .map [])])], none⟩) := by
  have h : Joins [("k", .map [("x", .int 1)]), ("n", .map [])]
      [("k", .map [("y", .int 2)]), ("n", .null)]
      [("n", .int 3), ("k", .map [("x", .map [])])] := by
    rintro (_ | ⟨key, rest⟩) ⟨fa, ha⟩ ⟨fc, hc⟩ ⟨v, hb, hv⟩
    · cases hb
      simp [Value.asMap?] at hv
    · by_cases hk : key = "k"
      · subst hk
        rw [at?_cons_map rfl] at ha hb hc
        rcases rest with _ | ⟨key', rest⟩
        · cases hb
          simp [Value.asMap?] at hv
        · by_cases hx : key' = "x"
          · simp [at?_cons, get?_cons, hx] at hb
          · simp [at?_cons, get?_cons, hx] at ha
      · by_cases hn : key = "n"
        · subst hn
          cases rest <;> simp [at?_cons, get?_cons, Value.at?] at hc
        · simp [at?_cons, get?_cons, hk, hn] at ha
  refine ⟨h, ((merge_laws _ _ _ ?_ ?_ ?_).2.2.2.1 h)⟩ <;>
    simp [UniqueKeys, Fields.UniqueKeys, Value.uniqueKeys_map, keys]

end Configuration

end LintEngine
