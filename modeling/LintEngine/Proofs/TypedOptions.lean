import LintEngine.Proofs.Reading
import LintEngine.Proofs.Validation
import Mathlib.Algebra.Group.Int.Defs
import Mathlib.Data.Set.List

namespace LintEngine

open Result

/-- Every whole number within a value is a signed or an unsigned integer of 64 bits. -/
inductive Value.Bounded : Value → Prop
  | null : Bounded .null
  | bool (b : Bool) : Bounded (.bool b)
  | int {i : Int} : -(2 ^ 63) ≤ i → i < 2 ^ 64 → Bounded (.int i)
  | float (x : Float) : Bounded (.float x)
  | string (text : String) : Bounded (.string text)
  | array {items : List Value} : (∀ v ∈ items, Bounded v) → Bounded (.array items)
  | map {fields : Fields} : (∀ entry ∈ fields, Bounded entry.2) → Bounded (.map fields)

/-- The values of an option of a kind. -/
inductive OptionKind.Admits : OptionKind → Value → Prop
  | boolean (b : Bool) : Admits .boolean (.bool b)
  | integer (i : Int) : Admits .integer (.int i)
  | whole (i : Int) : Admits .float (.int i)
  | float (x : Float) : Admits .float (.float x)
  | string (text : String) : Admits .string (.string text)
  | array (items : List Value) : Admits .array (.array items)
  | map (fields : Fields) : Admits .map (.map fields)
  | any (v : Value) : Admits .any v

theorem OptionKind.accepts_iff {kind : OptionKind} {v : Value} :
    kind.accepts v = true ↔ kind.Admits v := by
  constructor
  · intro h
    cases kind <;> cases v <;> first | exact absurd h Bool.false_ne_true | constructor
  · rintro ⟨⟩ <;> rfl

section Bounds

theorem Fields.forall_mem_insert {P : Value → Prop} {fields : Fields} {key : String} {value : Value}
    (h : ∀ entry ∈ fields, P entry.2) (hv : P value) :
    ∀ entry ∈ fields.insert key value, P entry.2 := by
  induction fields with
  | nil => simpa [insert] using hv
  | cons first rest ih =>
    rw [List.forall_mem_cons] at h
    rw [insert]
    split
    · exact List.forall_mem_cons.2 ⟨hv, h.2⟩
    · exact List.forall_mem_cons.2 ⟨h.1, ih h.2⟩

theorem Fields.forall_mem_ofEntries {P : Value → Prop} {entries : List (String × Value)}
    (h : ∀ entry ∈ entries, P entry.2) : ∀ entry ∈ ofEntries entries, P entry.2 :=
  List.foldlRecOn entries (motive := fun fields : Fields ↦ ∀ entry ∈ fields, P entry.2) _
    (by simp) fun _ hfields entry hentry ↦ forall_mem_insert hfields (h entry hentry)

theorem Value.readable_bounded : Readable Bounded where
  null := .null
  bool := .bool
  int _ := .int
  float := .float
  string := .string
  array _ := .array
  map _ h := .map (Fields.forall_mem_ofEntries h)

theorem Configuration.bounded_of_load {tree : FileTree} {path : Path} {c : Configuration}
    (h : load tree path = .ok c) : (Value.map c.fields).Bounded :=
  readable_of_load Value.readable_bounded h

end Bounds

namespace Settings

variable {c : Settings} {option : String} {v : Value} {kind : OptionKind}

theorem typed_eq_ok {α : Type} {extract : Value → Option α} {a : α} (h : c.get? option = some v) :
    c.typed option kind extract = .ok a ↔ extract v = some a := by
  have hrequire : c.require option = .ok v := by
    rw [require, h]
  simp only [typed, hrequire, bind, Except.bind]
  cases extract v <;> simp

theorem typed_of_none {α : Type} {extract : Value → Option α} (h : c.get? option = none) :
    c.typed option kind extract = .error (.undeclaredOption c.linter option) := by
  rw [typed, require, h]
  rfl

theorem strings_of_some (h : c.get? option = some v) :
    c.strings option = stringList option (some v) := by
  rw [strings, require, h]
  rfl

theorem strings_of_none (h : c.get? option = none) :
    c.strings option = .error (.undeclaredOption c.linter option) := by
  rw [strings, require, h]
  rfl

theorem unsigned_eq_ok {i : Int} {n : ℕ} (h : c.get? option = some (.int i)) :
    c.unsigned option = .ok n ↔ i = n := by
  rw [unsigned, typed_eq_ok h]
  cases i with
  | ofNat m => rw [Value.asUnsigned?, Option.some.injEq, Int.ofNat_eq_natCast, Int.ofNat_inj]
  | negSucc m => simp [Value.asUnsigned?]

theorem signed_eq_ok {i j : Int} (h : c.get? option = some (.int i)) :
    c.signed option = .ok j ↔ i = j ∧ i < 2 ^ 63 := by
  rw [signed, typed_eq_ok h, Value.asSigned?]
  split
  · next hi => rw [Option.some.injEq, and_iff_left (by omega)]
  · next hi => exact iff_of_false (by simp) fun h ↦ hi (by omega)

theorem exists_unsigned_iff {i : Int} (h : c.get? option = some (.int i)) :
    (∃ n, c.unsigned option = .ok n) ↔ 0 ≤ i := by
  simp only [unsigned_eq_ok h]
  refine ⟨?_, Int.eq_ofNat_of_zero_le⟩
  rintro ⟨n, rfl⟩
  exact Int.natCast_nonneg n

theorem exists_signed_iff {i : Int} (h : c.get? option = some (.int i)) :
    (∃ j, c.signed option = .ok j) ↔ i ≤ 2 ^ 63 - 1 := by
  simp only [signed_eq_ok h, exists_eq_left']
  omega

theorem exists_float_of_int {i : Int} (h : c.get? option = some (.int i)) :
    ∃ x, c.float option = .ok x := by
  simp only [float, typed_eq_ok h]
  cases i with
  | ofNat n => exact ⟨_, rfl⟩
  | negSucc n => exact ⟨_, rfl⟩

theorem exists_strings_iff {items : List Value} (h : c.get? option = some (.array items)) :
    (∃ texts, c.strings option = .ok texts) ↔ ∀ v ∈ items, ∃ text, v = .string text := by
  simp only [strings_of_some h, stringList_array_eq_ok]
  have hrange := Set.ext_iff.1 (Set.range_list_map Value.string) items
  simpa [eq_comm] using hrange

end Settings

namespace Schema

variable {linter : String} {raw : Fields} {c : Settings}
  {attempts : List (String × String × OptionSpec)}

theorem mem_options_attempt {s : Schema} {option : String} {spec : OptionSpec}
    {d : String × OptionSpec} (h : d ∈ (s.attempt linter option spec).options) :
    d ∈ s.options ∨ d = (option, spec) := by
  unfold attempt at h
  cases hadd : s.add linter option spec with
  | error e =>
    rw [hadd] at h
    exact .inl h
  | ok s' =>
    obtain ⟨-, -, -, rfl⟩ := add_eq_ok.1 hadd
    rw [hadd] at h
    exact (List.mem_append.1 h).imp_right List.mem_singleton.1

theorem mem_options_ofAttempts : ∀ d ∈ (ofAttempts attempts).options, ∃ attempt ∈ attempts,
    attempt.2 = d := by
  refine List.foldlRecOn attempts (motive := fun s : Schema ↦ ∀ d ∈ s.options,
    ∃ attempt ∈ attempts, attempt.2 = d) _ (by simp [empty]) fun s hs attempt hattempt d hd ↦ ?_
  obtain hd | rfl := mem_options_attempt hd
  · exact hs d hd
  · exact ⟨attempt, hattempt, rfl⟩

theorem bounded_of_validate (hdefaults : ∀ attempt ∈ attempts, ∀ v,
      attempt.2.2.default = some v → v.Bounded) (hraw : (Value.map raw).Bounded)
    {d : String × OptionSpec} (hd : d ∈ (ofAttempts attempts).options) :
    (optionValue raw d.1 d.2).Bounded := by
  unfold optionValue
  cases hget : raw.get? d.1 with
  | some v =>
    cases hraw with
    | map hraw => exact hraw _ (Fields.mem_of_get? hget)
  | none =>
    cases hdefault : d.2.default with
    | none => exact .null
    | some v =>
      obtain ⟨attempt, hattempt, rfl⟩ := mem_options_ofAttempts d hd
      exact hdefaults attempt hattempt v hdefault

/-- Every option that has been validated can be read as what its kind says, and what is not declared
cannot be read at all. A whole number is unsigned, signed or both. -/
theorem getters_exact (attempts : List (String × String × OptionSpec)) (linter : String)
    (raw : Fields) (c : Settings)
    (hdefaults : ∀ attempt ∈ attempts, ∀ v, attempt.2.2.default = some v → v.Bounded)
    (hraw : (Value.map raw).Bounded) (hc : (ofAttempts attempts).validate linter raw = .ok c) :
    (∀ option spec, (option, spec) ∈ (ofAttempts attempts).options →
      (spec.kind = .boolean → ∃ b, c.get? option = some (.bool b) ∧ c.bool option = .ok b) ∧
      (spec.kind = .string → ∃ text, c.get? option = some (.string text) ∧
        c.string option = .ok text) ∧
      (spec.kind = .float → (∃ x, c.get? option = some (.float x) ∧ c.float option = .ok x) ∨
        ∃ i x, c.get? option = some (.int i) ∧ c.float option = .ok x) ∧
      (spec.kind = .integer → ∃ i, c.get? option = some (.int i) ∧ -(2 ^ 63) ≤ i ∧ i ≤ 2 ^ 64 - 1 ∧
        ((∃ n, c.unsigned option = .ok n) ↔ 0 ≤ i) ∧ (∀ n, c.unsigned option = .ok n → n = i) ∧
        ((∃ j, c.signed option = .ok j) ↔ i ≤ 2 ^ 63 - 1) ∧ (∀ j, c.signed option = .ok j → j = i) ∧
        ((∃ n, c.unsigned option = .ok n) ∨ ∃ j, c.signed option = .ok j)) ∧
      (spec.kind = .array → ∃ items, c.get? option = some (.array items) ∧
        ((∃ texts, c.strings option = .ok texts) ↔ ∀ v ∈ items, ∃ text, v = .string text))) ∧
    ∀ option, option ∈ builtInOptions ∨ option ∉ (ofAttempts attempts).names →
      ∃ e, c.bool option = .error e ∧ c.string option = .error e ∧ c.float option = .error e ∧
        c.unsigned option = .error e ∧ c.signed option = .error e ∧
        c.strings option = .error e := by
  have hs := consistent_ofAttempts attempts
  obtain ⟨-, haccepts, -⟩ := validate_eq_ok.1 hc
  refine ⟨fun option spec hd ↦ ?_, fun option hoption ↦ ?_⟩
  · have hget := get?_of_validate hs hc hd
    have hadmits := OptionKind.accepts_iff.1 (haccepts _ hd)
    have hbounded := bounded_of_validate hdefaults hraw hd
    generalize optionValue raw option spec = v at hget hadmits hbounded
    refine ⟨?_, ?_, ?_, ?_, ?_⟩
    all_goals
      intro hkind
      rw [hkind] at hadmits
    · cases hadmits with
      | boolean b => exact ⟨b, hget, (Settings.typed_eq_ok hget).2 rfl⟩
    · cases hadmits with
      | string text => exact ⟨text, hget, (Settings.typed_eq_ok hget).2 rfl⟩
    · cases hadmits with
      | float x => exact .inl ⟨x, hget, (Settings.typed_eq_ok hget).2 rfl⟩
      | whole i =>
        obtain ⟨x, hx⟩ := Settings.exists_float_of_int hget
        exact .inr ⟨i, x, hget, hx⟩
    · cases hadmits with
      | integer i =>
        cases hbounded with
        | int hlower hupper =>
          have hunsigned := Settings.exists_unsigned_iff hget
          have hsigned := Settings.exists_signed_iff hget
          refine ⟨i, hget, hlower, by omega, hunsigned, fun n hn ↦ ?_, hsigned, fun j hj ↦ ?_, ?_⟩
          · exact ((Settings.unsigned_eq_ok hget).1 hn).symm
          · exact ((Settings.signed_eq_ok hget).1 hj).1.symm
          · rw [hunsigned, hsigned]
            omega
    · cases hadmits with
      | array items => exact ⟨items, hget, Settings.exists_strings_iff hget⟩
  · have hnone : c.get? option = none := by
      rw [Settings.get?, Fields.get?_eq_none_iff, keys_of_validate hc]
      exact hoption.elim (fun hbuiltIn hname ↦ hs.not_builtIn option hname hbuiltIn) id
    exact ⟨_, Settings.typed_of_none hnone, Settings.typed_of_none hnone,
      Settings.typed_of_none hnone, Settings.typed_of_none hnone, Settings.typed_of_none hnone,
      Settings.strings_of_none hnone⟩

def greatestAttempts : List (String × String × OptionSpec) :=
  [("L", "greatest", ⟨.integer, some (.int (2 ^ 64 - 1)), ""⟩), ("L", "list", ⟨.array, none, ""⟩)]

def greatestSettings : Settings :=
  ⟨"L", false, .error, none, [], [("greatest", .int (2 ^ 64 - 1)),
    ("list", .array [.string "a", .null])]⟩

theorem getters_exact_greatest :
    (ofAttempts greatestAttempts).validate "L" [("list", .array [.string "a", .null])] =
      .ok greatestSettings ∧
    (∃ n, greatestSettings.unsigned "greatest" = .ok n) ∧
    (¬∃ j, greatestSettings.signed "greatest" = .ok j) ∧
    (¬∃ texts, greatestSettings.strings "list" = .ok texts) ∧
    ∃ e, greatestSettings.bool "enabled" = .error e := by
  have hdefaults : ∀ attempt ∈ greatestAttempts, ∀ v, attempt.2.2.default = some v →
      v.Bounded := by
    simp only [greatestAttempts, List.forall_mem_cons, Option.some.injEq, forall_eq']
    exact ⟨.int (by decide) (by decide), by simp⟩
  have hraw : (Value.map [("list", .array [.string "a", .null])]).Bounded := by
    refine .map ?_
    simp only [List.forall_mem_singleton]
    exact .array (by simp [Value.Bounded.string, Value.Bounded.null])
  obtain ⟨hdeclared, hundeclared⟩ := getters_exact greatestAttempts "L"
    [("list", .array [.string "a", .null])] greatestSettings hdefaults hraw rfl
  obtain ⟨i, hi, -, -, hunsigned, -, hsigned, -⟩ :=
    (hdeclared "greatest" _ List.mem_cons_self).2.2.2.1 rfl
  obtain ⟨items, hitems, hstrings⟩ :=
    (hdeclared "list" _ (List.mem_cons_of_mem _ List.mem_cons_self)).2.2.2.2 rfl
  obtain ⟨e, he, -⟩ := hundeclared "enabled" (.inl (by simp [builtInOptions]))
  cases hi
  cases hitems
  refine ⟨rfl, hunsigned.2 (by decide), ?_, ?_, e, he⟩
  · rw [hsigned]
    decide
  · rw [hstrings]
    simp

end Schema

end LintEngine
