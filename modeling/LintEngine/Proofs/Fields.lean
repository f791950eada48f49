import LintEngine.Value.Basic
import Mathlib.Data.List.Nodup

namespace LintEngine

namespace Fields

variable {fields a b : Fields} {key k : String} {value v : Value}

@[simp]
theorem get?_nil (k : String) : get? [] k = none := rfl

theorem get?_cons (entry : String × Value) (rest : Fields) (k : String) :
    get? (entry :: rest) k = if k = entry.1 then some entry.2 else get? rest k := by
  obtain ⟨k', v'⟩ := entry
  simp only [get?, List.lookup_cons]
  by_cases h : k = k'
  · simp [h]
  · simp [h, beq_false_of_ne h]

@[simp]
theorem keys_nil : keys [] = [] := rfl

@[simp]
theorem keys_cons (entry : String × Value) (rest : Fields) :
    keys (entry :: rest) = entry.1 :: keys rest := rfl

theorem get?_eq_none_iff : get? fields k = none ↔ k ∉ keys fields := by
  induction fields with
  | nil => simp
  | cons entry rest ih =>
    rw [get?_cons]
    by_cases h : k = entry.1
    · simp [h]
    · simp [h, ih]

theorem mem_of_get? (h : get? fields k = some v) : (k, v) ∈ fields := by
  induction fields with
  | nil => simp at h
  | cons entry rest ih =>
    rw [get?_cons] at h
    split at h
    · next hk =>
      cases h
      rw [hk]
      exact List.mem_cons_self
    · exact List.mem_cons_of_mem _ (ih h)

theorem get?_of_mem (hn : (keys fields).Nodup) (h : (k, v) ∈ fields) :
    get? fields k = some v := by
  induction fields with
  | nil => simp at h
  | cons entry rest ih =>
    rw [keys_cons, List.nodup_cons] at hn
    rw [get?_cons]
    rcases List.mem_cons.1 h with he | hr
    · simp [← he]
    · have hk : k ≠ entry.1 := by
        rintro rfl
        exact hn.1 (List.mem_map.2 ⟨_, hr, rfl⟩)
      rw [if_neg hk, ih hn.2 hr]

theorem get?_insert (fields : Fields) (key : String) (value : Value) (k : String) :
    get? (insert fields key value) k = if k = key then some value else get? fields k := by
  induction fields with
  | nil => rw [insert, get?_cons]
  | cons entry rest ih =>
    obtain ⟨k', v'⟩ := entry
    rw [insert]
    by_cases hk : k' = key
    · rw [if_pos hk, get?_cons, get?_cons]
      by_cases h : k = key <;> simp [h, hk]
    · rw [if_neg hk, get?_cons, get?_cons, ih]
      by_cases h : k = k'
      · have hne : k ≠ key := fun h' ↦ hk (h ▸ h')
        rw [if_pos h, if_neg hne, if_pos h]
      · rw [if_neg h, if_neg h]

theorem keys_insert (fields : Fields) (key : String) (value : Value) :
    keys (insert fields key value) =
      if key ∈ keys fields then keys fields else keys fields ++ [key] := by
  induction fields with
  | nil => simp [insert]
  | cons entry rest ih =>
    obtain ⟨k', v'⟩ := entry
    rw [insert]
    by_cases hk : k' = key
    · simp [hk]
    · have hk' : key ≠ k' := fun h ↦ hk h.symm
      simp only [if_neg hk, keys_cons, ih, List.mem_cons, hk', false_or]
      split <;> simp

theorem nodup_keys_insert (h : (keys fields).Nodup) (key : String) (value : Value) :
    (keys (insert fields key value)).Nodup := by
  rw [keys_insert]
  split
  · exact h
  · next hk => exact List.Nodup.append h (List.nodup_singleton key) (by simpa using hk)

theorem keys_erase (fields : Fields) (key : String) :
    keys (erase fields key) = (keys fields).filter (· ≠ key) := by
  simp only [keys, erase, List.filter_map]
  rfl

theorem get?_erase (fields : Fields) (key k : String) :
    get? (erase fields key) k = if k = key then none else get? fields k := by
  induction fields with
  | nil => simp [erase]
  | cons entry rest ih =>
    have ih' : get? (rest.filter fun entry ↦ entry.1 ≠ key) k =
        if k = key then none else get? rest k := ih
    by_cases he : entry.1 = key
    · rw [erase, List.filter_cons_of_neg (by simpa using he), ih', get?_cons, he]
      split <;> rfl
    · rw [erase, List.filter_cons_of_pos (by simpa using he), get?_cons, ih', get?_cons]
      by_cases h : k = entry.1
      · simp [h, he]
      · simp [h]

/-- Two maps without repeated keys are the same if their keys stand in the same order and lead to
the same values. -/
theorem ext_get? (ha : (keys a).Nodup) (hk : keys a = keys b)
    (hg : ∀ k, get? a k = get? b k) : a = b := by
  induction a generalizing b with
  | nil =>
    cases b with
    | nil => rfl
    | cons entry rest => simp at hk
  | cons entry rest ih =>
    cases b with
    | nil => simp at hk
    | cons entry' rest' =>
      simp only [keys_cons, List.cons.injEq] at hk
      rw [keys_cons, List.nodup_cons] at ha
      have hv : entry.2 = entry'.2 := by
        have h := hg entry.1
        simpa [get?_cons, hk.1] using h
      have hr : rest = rest' := by
        refine ih ha.2 hk.2 (fun k ↦ ?_)
        by_cases h : k = entry.1
        · have h₁ : get? rest k = none := get?_eq_none_iff.2 (h ▸ ha.1)
          have h₂ : get? rest' k = none := get?_eq_none_iff.2 (h ▸ hk.2 ▸ ha.1)
          rw [h₁, h₂]
        · have h' : k ≠ entry'.1 := hk.1 ▸ h
          simpa [get?_cons, h, h'] using hg k
      rw [hr, Prod.ext hk.1 hv]

theorem sizeOf_get?_lt (h : get? fields k = some v) : sizeOf v < sizeOf fields := by
  have hm := List.sizeOf_lt_of_mem (mem_of_get? h)
  simp only [Prod.mk.sizeOf_spec] at hm
  omega

end Fields

/-- No map within the value holds a key twice. -/
inductive Value.UniqueKeys : Value → Prop
  | null : UniqueKeys .null
  | bool (b : Bool) : UniqueKeys (.bool b)
  | int (i : Int) : UniqueKeys (.int i)
  | float (x : Float) : UniqueKeys (.float x)
  | string (s : String) : UniqueKeys (.string s)
  | array {items : List Value} : (∀ v ∈ items, UniqueKeys v) → UniqueKeys (.array items)
  | map {fields : Fields} : (Fields.keys fields).Nodup →
      (∀ entry ∈ fields, UniqueKeys entry.2) → UniqueKeys (.map fields)

attribute [simp] Value.UniqueKeys.null Value.UniqueKeys.bool Value.UniqueKeys.int
  Value.UniqueKeys.float Value.UniqueKeys.string

theorem Value.uniqueKeys_map {fields : Fields} : (Value.map fields).UniqueKeys ↔
    (Fields.keys fields).Nodup ∧ ∀ entry ∈ fields, entry.2.UniqueKeys := by
  refine ⟨fun h ↦ ?_, fun h ↦ .map h.1 h.2⟩
  cases h with
  | map hn hv => exact ⟨hn, hv⟩

namespace Fields

variable {fields : Fields}

def UniqueKeys (fields : Fields) : Prop := (Value.map fields).UniqueKeys

theorem uniqueKeys_nil : UniqueKeys [] := .map List.nodup_nil (fun _ h ↦ by simp at h)

theorem UniqueKeys.nodup (h : UniqueKeys fields) : (keys fields).Nodup :=
  (Value.uniqueKeys_map.1 h).1

theorem UniqueKeys.mem (h : UniqueKeys fields) {entry : String × Value}
    (he : entry ∈ fields) : entry.2.UniqueKeys :=
  (Value.uniqueKeys_map.1 h).2 entry he

theorem UniqueKeys.get? (h : UniqueKeys fields) {k : String} {v : Value}
    (hg : get? fields k = some v) : v.UniqueKeys :=
  h.mem (mem_of_get? hg)

theorem UniqueKeys.of_get? (hn : (keys fields).Nodup)
    (hv : ∀ k v, Fields.get? fields k = some v → v.UniqueKeys) : UniqueKeys fields :=
  .map hn (fun entry he ↦ hv entry.1 entry.2 (get?_of_mem hn he))

theorem UniqueKeys.insert (h : UniqueKeys fields) (key : String) {value : Value}
    (hv : value.UniqueKeys) : UniqueKeys (insert fields key value) := by
  refine .of_get? (nodup_keys_insert h.nodup key value) (fun k v hk ↦ ?_)
  rw [get?_insert] at hk
  split at hk
  · cases hk
    exact hv
  · exact h.get? hk

theorem UniqueKeys.erase (h : UniqueKeys fields) (key : String) :
    UniqueKeys (erase fields key) := by
  refine .map ?_ (fun entry he ↦ h.mem (List.mem_of_mem_filter he))
  rw [keys_erase]
  exact h.nodup.filter _

/-- However often a key is repeated in a list of entries, it occurs once in the map that they
make up. -/
theorem uniqueKeys_ofEntries {entries : List (String × Value)}
    (h : ∀ entry ∈ entries, entry.2.UniqueKeys) : UniqueKeys (ofEntries entries) := by
  suffices hf : ∀ start : Fields, UniqueKeys start →
      UniqueKeys (entries.foldl (fun fields entry ↦ insert fields entry.1 entry.2) start) from
    hf [] uniqueKeys_nil
  induction entries with
  | nil => exact fun start hs ↦ hs
  | cons entry rest ih =>
    intro start hs
    exact ih (fun e he ↦ h e (List.mem_cons_of_mem _ he)) _
      (hs.insert entry.1 (h entry List.mem_cons_self))

end Fields

end LintEngine
