import LintEngine.Options.Schema
import LintEngine.Proofs.Fields
import LintEngine.Proofs.Related

namespace LintEngine

open Result

def Value.IsStrings (v : Value) : Prop :=
  (∃ text, v = .string text) ∨ ∃ texts : List String, v = .array (texts.map .string)

def Fields.Optional (raw : Fields) (key : String) (P : Value → Prop) : Prop :=
  ∀ v, raw.get? key = some v → v = .null ∨ P v

/-- The error about a value that should be a list of strings: it is about the first item that is no
string, or about the value if it has no items. -/
inductive NotStrings (key : String) : Value → Error → Prop
  | item {before after : List Value} {v : Value} : (∀ x ∈ before, ∃ text, x = .string text) →
      (∀ text, v ≠ .string text) →
      NotStrings key (.array (before ++ v :: after)) (.notOnlyStrings key v.kindName)
  | other {v : Value} : v ≠ .null → (∀ text, v ≠ .string text) → (∀ items, v ≠ .array items) →
      NotStrings key v (.notAStringList key v.kindName)

section Strings

variable {key : String} {value : Option Value} {e : Error}

theorem stringList_array_eq_ok {items : List Value} {texts : List String} :
    stringList key (some (.array items)) = .ok texts ↔ items = texts.map .string := by
  rw [stringList, mapM_eq_ok_iff, ← List.forall₂_eq_eq_eq, List.forall₂_map_right_iff]
  refine ⟨.imp fun item text h ↦ ?_, .imp fun item text h ↦ ?_⟩
  · cases item <;> simp_all
  · rw [h]

theorem exists_stringList_iff :
    (∃ texts, stringList key value = .ok texts) ↔
      ∀ v, value = some v → v = .null ∨ v.IsStrings := by
  cases value with
  | none => simp [stringList]
  | some v =>
    cases v with
    | array items => simp [stringList_array_eq_ok, Value.IsStrings]
    | _ => simp [stringList, Value.IsStrings]

theorem stringList_array_eq_error {items : List Value} :
    stringList key (some (.array items)) = .error e ↔ NotStrings key (.array items) e := by
  rw [stringList, mapM_eq_error_iff]
  constructor
  · rintro ⟨before, v, after, rfl, hbefore, hv⟩
    have hstrings : ∀ x ∈ before, ∃ text, x = .string text := by
      intro x hx
      obtain ⟨text, htext⟩ := hbefore x hx
      cases x <;> simp_all
    cases v with
    | string text => cases hv
    | _ =>
      cases hv
      exact .item hstrings (by simp)
  · intro h
    cases h with
    | @item before after v hbefore hv =>
      refine ⟨before, v, after, rfl, fun x hx ↦ ?_, ?_⟩
      · obtain ⟨text, rfl⟩ := hbefore x hx
        exact ⟨text, rfl⟩
      · cases v with
        | string text => exact absurd rfl (hv text)
        | _ => rfl
    | other _ _ harray => exact absurd rfl (harray items)

theorem stringList_eq_error :
    stringList key value = .error e ↔ ∃ v, value = some v ∧ NotStrings key v e := by
  have hother {v : Value} (hnull : v ≠ .null) (hstring : ∀ text, v ≠ .string text)
      (harray : ∀ items, v ≠ .array items) :
      NotStrings key v e ↔ .notAStringList key v.kindName = e := by
    constructor
    · rintro (⟨-, -⟩ | -)
      · exact absurd rfl (harray _)
      · rfl
    · rintro rfl
      exact .other hnull hstring harray
  cases value with
  | none => simp [stringList]
  | some v =>
    simp only [Option.some.injEq, exists_eq_left']
    cases v with
    | array items => exact stringList_array_eq_error
    | null =>
      refine iff_of_false (by simp [stringList]) ?_
      rintro (_ | hnull)
      exact hnull rfl
    | string text =>
      refine iff_of_false (by simp [stringList]) ?_
      rintro (_ | ⟨-, hstring⟩)
      exact hstring text rfl
    | _ => rw [stringList, Except.error.injEq, hother] <;> simp

end Strings

/-- The settings of a linter as a raw map: all declared options with their values, and what the
built-in ones say. -/
def Settings.toFields (c : Settings) : Fields :=
  ("enabled", .bool c.enabled) :: ("severity", .string c.severity.name) ::
    ("exclude", .array (c.excluded.map .string)) ::
      ((c.included.map fun texts ↦ ("include", Value.array (texts.map .string))).toList ++
        c.options)

def Mentions (text part : String) : Prop := part.toList <:+: text.toList

namespace Mentions

variable {a b part : String}

theorem refl (a : String) : Mentions a a := List.infix_rfl

theorem left (h : Mentions a part) : Mentions (a ++ b) part := by
  rw [Mentions, String.toList_append]
  exact h.trans (List.prefix_append _ _).isInfix

theorem right (h : Mentions b part) : Mentions (a ++ b) part := by
  rw [Mentions, String.toList_append]
  exact h.trans (List.suffix_append _ _).isInfix

theorem listing {names : List String} (h : part ∈ names) : Mentions (Error.listing names) part := by
  rw [Mentions, Error.listing, String.toList_intercalate]
  generalize String.toList ", " = separator
  induction names with
  | nil => cases h
  | cons first rest ih =>
    cases rest with
    | nil => simp [List.mem_singleton.1 h]
    | cons next rest =>
      rw [List.map_cons, List.map_cons, List.intercalate_cons_cons, ← List.map_cons]
      obtain rfl | h := List.mem_cons.1 h
      · rw [List.append_assoc]
        exact (List.prefix_append _ _).isInfix
      · exact (ih h).trans (List.suffix_append _ _).isInfix

end Mentions

def Error.options : Error → List String
  | .unknownOptions _ unknown _ => unknown
  | .unsuitableOption _ option _ _ _ => [option]
  | .wrongKind _ option _ _ => [option]
  | .notOnlyStrings option _ => [option]
  | .notAStringList option _ => [option]
  | _ => []

theorem Error.mentions_options (e : Error) : ∀ option ∈ e.options, Mentions e.message option := by
  intro option h
  cases e with
  | unknownOptions linter unknown available =>
    exact .right (.right (.left (.left (.right (.listing h)))))
  | unsuitableOption linter name expected kind text =>
    rw [List.mem_singleton.1 h]
    exact .right (.left (.left (.left (.left (.left (.left (.right (.refl _))))))))
  | wrongKind linter name expected kind =>
    rw [List.mem_singleton.1 h]
    exact .right (.left (.left (.left (.left (.left (.left (.right (.refl _))))))))
  | notOnlyStrings name kind =>
    rw [List.mem_singleton.1 h]
    exact .right (.left (.left (.right (.refl _))))
  | notAStringList name kind =>
    rw [List.mem_singleton.1 h]
    exact .right (.left (.left (.right (.refl _))))
  | _ => cases h

namespace Schema

variable {s : Schema} {linter option : String} {spec : OptionSpec} {raw : Fields} {e : Error}
  {value : Option Value}

section Declaring

def attempt (s : Schema) (linter option : String) (spec : OptionSpec) : Schema :=
  (s.add linter option spec).toOption.getD s

def ofAttempts (attempts : List (String × String × OptionSpec)) : Schema :=
  attempts.foldl (fun s (linter, option, spec) ↦ s.attempt linter option spec) empty

/-- No option is declared twice or shadows a built-in one, and each default suits its option. -/
structure Consistent (s : Schema) : Prop where
  nodup : s.names.Nodup
  not_builtIn : ∀ name ∈ s.names, name ∉ builtInOptions
  default_accepted : ∀ d ∈ s.options, ∀ v, d.2.default = some v → d.2.kind.accepts v = true

theorem get?_eq_none_iff : s.get? option = none ↔ option ∉ s.names := by
  rw [get?, List.lookup_eq_none_iff, names, List.mem_map]
  constructor
  · rintro h ⟨d, hd, rfl⟩
    simpa using h d hd
  · intro h d hd
    simpa using fun he ↦ h ⟨d, hd, Eq.symm he⟩

theorem add_eq_ok {s' : Schema} : s.add linter option spec = .ok s' ↔
    option ∉ builtInOptions ∧ option ∉ s.names ∧
      (∀ v, spec.default = some v → spec.kind.accepts v = true) ∧
      s' = ⟨s.options ++ [(option, spec)]⟩ := by
  have hdeclared : (s.get? option).isSome = true ↔ option ∈ s.names := by
    rw [← not_iff_not, ← get?_eq_none_iff, Bool.not_eq_true, Option.isSome_eq_false_iff,
      Option.isNone_iff_eq_none]
  unfold add
  by_cases hbuiltIn : option ∈ builtInOptions
  · simp [hbuiltIn]
  · by_cases hnew : option ∈ s.names
    · simp [hbuiltIn, hnew, hdeclared]
    · simp only [List.contains_iff_mem, hbuiltIn, hdeclared, hnew, if_false, not_false_eq_true,
        true_and]
      cases spec.default with
      | none => simp [eq_comm (a := s')]
      | some v => cases hv : spec.kind.accepts v <;> simp [hv, eq_comm (a := s')]

theorem Consistent.add {s' : Schema} (hs : s.Consistent)
    (h : s.add linter option spec = .ok s') : s'.Consistent := by
  obtain ⟨hbuiltIn, hnew, hdefault, rfl⟩ := add_eq_ok.1 h
  have hnames : names ⟨s.options ++ [(option, spec)]⟩ = s.names ++ [option] := by simp [names]
  refine ⟨?_, fun name hname ↦ ?_, fun d hd ↦ ?_⟩
  · rw [hnames]
    exact hs.nodup.append (List.nodup_singleton option) (by simpa using hnew)
  · rw [hnames, List.mem_append, List.mem_singleton] at hname
    obtain hname | rfl := hname
    · exact hs.not_builtIn name hname
    · exact hbuiltIn
  · obtain hd | hd := List.mem_append.1 hd
    · exact hs.default_accepted d hd
    · rw [List.mem_singleton.1 hd]
      exact hdefault

theorem Consistent.attempt (hs : s.Consistent) (linter option : String) (spec : OptionSpec) :
    (s.attempt linter option spec).Consistent := by
  unfold Schema.attempt
  cases h : s.add linter option spec with
  | ok s' => exact hs.add h
  | error e => exact hs

theorem consistent_ofAttempts (attempts : List (String × String × OptionSpec)) :
    (ofAttempts attempts).Consistent := by
  have hempty : empty.Consistent := ⟨List.nodup_nil, by simp [names, empty], by simp [empty]⟩
  exact List.foldlRecOn attempts _ hempty fun s hs attempt _ ↦
    hs.attempt attempt.1 attempt.2.1 attempt.2.2

end Declaring

section Checking

def Knows (s : Schema) (raw : Fields) : Prop :=
  ∀ key ∈ raw.keys, key ∈ builtInOptions ∨ key ∈ s.names

def Suits (raw : Fields) (d : String × OptionSpec) : Prop :=
  (∀ v, raw.get? d.1 = some v → d.2.kind.accepts v = true) ∧
    (raw.get? d.1 = none → d.2.default ≠ none ∨ d.2.kind = .any)

theorem unknownKeys_eq (s : Schema) (raw : Fields) :
    s.unknownKeys raw = raw.keys.filter fun key ↦ key ∉ builtInOptions ∧ key ∉ s.names := by
  refine List.filter_congr fun key _ ↦ ?_
  rw [Bool.eq_iff_iff]
  simp [get?_eq_none_iff]

theorem unknownKeys_eq_nil_iff : s.unknownKeys raw = [] ↔ s.Knows raw := by
  simp only [unknownKeys_eq, List.filter_eq_nil_iff, Knows, decide_eq_true_eq, not_and_or, not_not]

theorem accepts_null_iff {kind : OptionKind} : kind.accepts .null = true ↔ kind = .any := by
  cases kind <;> simp [OptionKind.accepts]

theorem accepts_optionValue_iff
    (h : ∀ v, spec.default = some v → spec.kind.accepts v = true) :
    spec.kind.accepts (optionValue raw option spec) = true ↔ Suits raw (option, spec) := by
  unfold optionValue Suits
  cases hraw : raw.get? option with
  | some v => simp
  | none =>
    cases hdefault : spec.default with
    | some v => simp [h v hdefault]
    | none => simp [accepts_null_iff]

theorem checkOption_eq_ok {d : String × OptionSpec} {entry : String × Value} :
    checkOption linter raw d = .ok entry ↔
      d.2.kind.accepts (optionValue raw d.1 d.2) = true ∧
        (d.1, optionValue raw d.1 d.2) = entry := by
  unfold checkOption
  dsimp only
  split
  · next h => simp [h]
  · next h => simp [h]

theorem checkOption_eq_error {d : String × OptionSpec} : checkOption linter raw d = .error e ↔
    d.2.kind.accepts (optionValue raw d.1 d.2) = false ∧
      e = .unsuitableOption linter d.1 d.2.kind (optionValue raw d.1 d.2).kindName
        (optionValue raw d.1 d.2).json := by
  unfold checkOption
  dsimp only
  split
  · next h => simp [h]
  · next h => simp [h, eq_comm (a := e)]

theorem mapM_checkOption_eq_ok {fields : Fields} :
    s.options.mapM (checkOption linter raw) = .ok fields ↔
      (∀ d ∈ s.options, d.2.kind.accepts (optionValue raw d.1 d.2) = true) ∧
        s.options.map (fun d ↦ (d.1, optionValue raw d.1 d.2)) = fields := by
  simp only [mapM_eq_ok_iff, checkOption_eq_ok, List.forall₂_and_left]
  rw [← List.forall₂_eq_eq_eq, List.forall₂_map_left_iff]

theorem exists_checkEnabled_iff : (∃ b, checkEnabled linter value = .ok b) ↔
    ∀ v, value = some v → v = .null ∨ ∃ b, v = .bool b := by
  cases value with
  | none => simp [checkEnabled]
  | some v => cases v <;> simp [checkEnabled]

theorem checkEnabled_eq_error : checkEnabled linter value = .error e ↔
    ∃ v, value = some v ∧ v ≠ .null ∧ (∀ b, v ≠ .bool b) ∧
      e = .wrongKind linter "enabled" .boolean v.kindName := by
  cases value with
  | none => simp [checkEnabled]
  | some v => cases v <;> simp [checkEnabled, eq_comm (a := e)]

theorem exists_checkSeverity_iff : (∃ severity, checkSeverity linter value = .ok severity) ↔
    ∀ v, value = some v → v = .null ∨ ∃ name, v = .string name := by
  cases value with
  | none => simp [checkSeverity]
  | some v => cases v <;> simp [checkSeverity]

theorem checkSeverity_eq_error : checkSeverity linter value = .error e ↔
    ∃ v, value = some v ∧ v ≠ .null ∧ (∀ name, v ≠ .string name) ∧
      e = .wrongKind linter "severity" .string v.kindName := by
  cases value with
  | none => simp [checkSeverity]
  | some v => cases v <;> simp [checkSeverity, eq_comm (a := e)]

theorem checkIncluded_of_ne_null {v : Value} (h : v ≠ .null) :
    checkIncluded (some v) = (stringList "include" (some v)).map some := by
  cases v with
  | null => exact absurd rfl h
  | _ => rfl

theorem exists_checkIncluded_iff : (∃ texts, checkIncluded value = .ok texts) ↔
    ∀ v, value = some v → v = .null ∨ v.IsStrings := by
  cases value with
  | none => simp [checkIncluded]
  | some v =>
    by_cases h : v = .null
    · simp [h, checkIncluded]
    · rw [checkIncluded_of_ne_null h, ← @exists_stringList_iff "include"]
      cases stringList "include" (some v) <;> simp [Except.map]

theorem checkIncluded_eq_error : checkIncluded value = .error e ↔
    ∃ v, value = some v ∧ NotStrings "include" v e := by
  rw [← stringList_eq_error]
  cases value with
  | none => simp [checkIncluded, stringList]
  | some v =>
    by_cases h : v = .null
    · simp [h, checkIncluded, stringList]
    · rw [checkIncluded_of_ne_null h]
      cases stringList "include" (some v) <;> simp [Except.map]

end Checking

section Verdict

/-- A raw map has known keys and values that suit them. -/
structure Accepts (s : Schema) (raw : Fields) : Prop where
  known : s.Knows raw
  declared : ∀ d ∈ s.options, Suits raw d
  enabled : raw.Optional "enabled" fun v ↦ ∃ b, v = .bool b
  severity : raw.Optional "severity" fun v ↦ ∃ name, v = .string name
  included : raw.Optional "include" Value.IsStrings
  excluded : raw.Optional "exclude" Value.IsStrings

/-- The error about a raw map: all its unknown keys, or else the first declared option with an
unsuitable value, or else the first built-in one. -/
inductive Refuses (s : Schema) (linter : String) (raw : Fields) : Error → Prop
  | unknown {keys : List String} :
      keys = raw.keys.filter (fun key ↦ key ∉ builtInOptions ∧ key ∉ s.names) → keys ≠ [] →
      Refuses s linter raw (.unknownOptions linter keys (builtInOptions ++ s.names))
  | declared {before after : List (String × OptionSpec)} {d : String × OptionSpec} {v : Value} :
      s.Knows raw → s.options = before ++ d :: after → (∀ x ∈ before, Suits raw x) →
      ¬Suits raw d → v = (raw.get? d.1).getD .null →
      Refuses s linter raw (.unsuitableOption linter d.1 d.2.kind v.kindName v.json)
  | enabled {v : Value} : s.Knows raw → (∀ d ∈ s.options, Suits raw d) →
      raw.get? "enabled" = some v → v ≠ .null → (∀ b, v ≠ .bool b) →
      Refuses s linter raw (.wrongKind linter "enabled" .boolean v.kindName)
  | severity {v : Value} : s.Knows raw → (∀ d ∈ s.options, Suits raw d) →
      (raw.Optional "enabled" fun v ↦ ∃ b, v = .bool b) →
      raw.get? "severity" = some v → v ≠ .null → (∀ name, v ≠ .string name) →
      Refuses s linter raw (.wrongKind linter "severity" .string v.kindName)
  | included {v : Value} {e : Error} : s.Knows raw → (∀ d ∈ s.options, Suits raw d) →
      (raw.Optional "enabled" fun v ↦ ∃ b, v = .bool b) →
      (raw.Optional "severity" fun v ↦ ∃ name, v = .string name) →
      raw.get? "include" = some v → NotStrings "include" v e → Refuses s linter raw e
  | excluded {v : Value} {e : Error} : s.Knows raw → (∀ d ∈ s.options, Suits raw d) →
      (raw.Optional "enabled" fun v ↦ ∃ b, v = .bool b) →
      (raw.Optional "severity" fun v ↦ ∃ name, v = .string name) →
      raw.Optional "include" Value.IsStrings →
      raw.get? "exclude" = some v → NotStrings "exclude" v e → Refuses s linter raw e

theorem validate_eq_ok {c : Settings} : s.validate linter raw = .ok c ↔ s.Knows raw ∧
    (∀ d ∈ s.options, d.2.kind.accepts (optionValue raw d.1 d.2) = true) ∧
    checkEnabled linter (raw.get? "enabled") = .ok c.enabled ∧
    checkSeverity linter (raw.get? "severity") = .ok c.severity ∧
    checkIncluded (raw.get? "include") = .ok c.included ∧
    stringList "exclude" (raw.get? "exclude") = .ok c.excluded ∧
    c.linter = linter ∧ c.options = s.options.map fun d ↦ (d.1, optionValue raw d.1 d.2) := by
  unfold validate
  rw [← unknownKeys_eq_nil_iff]
  dsimp only
  cases hkeys : s.unknownKeys raw with
  | cons key rest => simp
  | nil =>
    simp only [List.isEmpty_nil, Bool.not_true, Bool.false_eq_true, if_false, bind_eq_ok,
      mapM_checkOption_eq_ok, true_and]
    constructor
    · rintro ⟨_, ⟨hoptions, rfl⟩, enabled, henabled, severity, hseverity, included, hincluded,
        excluded, hexcluded, ⟨⟩⟩
      exact ⟨hoptions, henabled, hseverity, hincluded, hexcluded, rfl, rfl⟩
    · rintro ⟨hoptions, henabled, hseverity, hincluded, hexcluded, rfl, hc⟩
      refine ⟨c.options, ⟨hoptions, hc.symm⟩, c.enabled, henabled, c.severity, hseverity,
        c.included, hincluded, c.excluded, hexcluded, rfl⟩

theorem suits_iff (hs : s.Consistent) {d : String × OptionSpec} (hd : d ∈ s.options) :
    d.2.kind.accepts (optionValue raw d.1 d.2) = true ↔ Suits raw d :=
  accepts_optionValue_iff (hs.default_accepted d hd)

theorem exists_validate_iff (hs : s.Consistent) :
    (∃ c, s.validate linter raw = .ok c) ↔ s.Accepts raw := by
  have hdeclared : (∀ d ∈ s.options, d.2.kind.accepts (optionValue raw d.1 d.2) = true) ↔
      ∀ d ∈ s.options, Suits raw d := forall₂_congr fun d hd ↦ suits_iff hs hd
  simp only [validate_eq_ok, hdeclared]
  constructor
  · rintro ⟨c, hknown, hdeclared, henabled, hseverity, hincluded, hexcluded, -⟩
    exact ⟨hknown, hdeclared, exists_checkEnabled_iff.1 ⟨_, henabled⟩,
      exists_checkSeverity_iff.1 ⟨_, hseverity⟩, exists_checkIncluded_iff.1 ⟨_, hincluded⟩,
      exists_stringList_iff.1 ⟨_, hexcluded⟩⟩
  · intro h
    obtain ⟨enabled, henabled⟩ := exists_checkEnabled_iff.2 h.enabled
    obtain ⟨severity, hseverity⟩ := exists_checkSeverity_iff.2 h.severity
    obtain ⟨included, hincluded⟩ := exists_checkIncluded_iff.2 h.included
    obtain ⟨excluded, hexcluded⟩ := exists_stringList_iff.2 h.excluded
    exact ⟨⟨linter, enabled, severity, included, excluded, _⟩, h.known, h.declared, henabled,
      hseverity, hincluded, hexcluded, rfl, rfl⟩

theorem mapM_checkOption_eq_error (hs : s.Consistent) :
    s.options.mapM (checkOption linter raw) = .error e ↔ ∃ before d after,
      s.options = before ++ d :: after ∧ (∀ x ∈ before, Suits raw x) ∧ ¬Suits raw d ∧
      e = .unsuitableOption linter d.1 d.2.kind ((raw.get? d.1).getD .null).kindName
        ((raw.get? d.1).getD .null).json := by
  simp only [mapM_eq_error_iff, checkOption_eq_ok, exists_and_left, exists_eq', and_true,
    checkOption_eq_error]
  refine exists_congr fun before ↦ exists_congr fun d ↦ exists_congr fun after ↦
    and_congr_right fun hoptions ↦ ?_
  have hmem : before ++ [d] ⊆ s.options := by
    rw [hoptions, List.append_cons before d after]
    exact List.subset_append_left _ _
  have hd : _ ↔ Suits raw d := suits_iff hs (hmem (by simp))
  refine and_congr (forall₂_congr fun x hx ↦ suits_iff hs (hmem (by simp [hx]))) ?_
  rw [← hd, Bool.not_eq_true]
  refine and_congr_right fun hrefused ↦ ?_
  -- A default would have been accepted, so that none stands behind the refused value.
  have hvalue : optionValue raw d.1 d.2 = (raw.get? d.1).getD .null := by
    unfold optionValue at hrefused ⊢
    cases hraw : raw.get? d.1 with
    | some v => rfl
    | none =>
      cases hdefault : d.2.default with
      | none => rfl
      | some v =>
        have haccepted := hs.default_accepted d (hmem (by simp)) v hdefault
        rw [hraw, hdefault] at hrefused
        exact absurd (haccepted.symm.trans hrefused) (by decide)
  rw [hvalue]

theorem validate_eq_error (hs : s.Consistent) :
    s.validate linter raw = .error e ↔ s.Refuses linter raw e := by
  have hdeclared : (∀ d ∈ s.options, d.2.kind.accepts (optionValue raw d.1 d.2) = true) ↔
      ∀ d ∈ s.options, Suits raw d := forall₂_congr fun d hd ↦ suits_iff hs hd
  by_cases hknown : s.Knows raw
  · have hkeys : s.unknownKeys raw = [] := unknownKeys_eq_nil_iff.2 hknown
    unfold validate
    simp only [hkeys, List.isEmpty_nil, Bool.not_true, Bool.false_eq_true, if_false, bind_eq_error,
      mapM_checkOption_eq_ok, mapM_checkOption_eq_error hs, hdeclared, reduceCtorEq, and_false,
      exists_false, or_false, exists_and_right, exists_and_left, exists_eq', and_true,
      exists_checkEnabled_iff, exists_checkSeverity_iff, exists_checkIncluded_iff,
      checkEnabled_eq_error, checkSeverity_eq_error, checkIncluded_eq_error, stringList_eq_error]
    constructor
    · rintro (⟨before, d, ⟨after, hoptions⟩, hbefore, hd, rfl⟩ | ⟨hsuits, h⟩)
      · exact .declared hknown hoptions hbefore hd rfl
      obtain ⟨v, hv, hnull, hbool, rfl⟩ | ⟨henabled, h⟩ := h
      · exact .enabled hknown hsuits hv hnull hbool
      obtain ⟨v, hv, hnull, hstring, rfl⟩ | ⟨hseverity, h⟩ := h
      · exact .severity hknown hsuits henabled hv hnull hstring
      obtain ⟨v, hv, hstrings⟩ | ⟨hincluded, v, hv, hstrings⟩ := h
      · exact .included hknown hsuits henabled hseverity hv hstrings
      · exact .excluded hknown hsuits henabled hseverity hincluded hv hstrings
    · intro h
      cases h with
      | unknown hfilter hne =>
        rw [← unknownKeys_eq, hkeys] at hfilter
        exact absurd hfilter hne
      | declared _ hoptions hbefore hd hv =>
        rw [hv]
        exact .inl ⟨_, _, ⟨_, hoptions⟩, hbefore, hd, rfl⟩
      | enabled _ hsuits hv hnull hbool => exact .inr ⟨hsuits, .inl ⟨_, hv, hnull, hbool, rfl⟩⟩
      | severity _ hsuits henabled hv hnull hstring =>
        exact .inr ⟨hsuits, .inr ⟨henabled, .inl ⟨_, hv, hnull, hstring, rfl⟩⟩⟩
      | included _ hsuits henabled hseverity hv hstrings =>
        exact .inr ⟨hsuits, .inr ⟨henabled, .inr ⟨hseverity, .inl ⟨_, hv, hstrings⟩⟩⟩⟩
      | excluded _ hsuits henabled hseverity hincluded hv hstrings =>
        exact .inr ⟨hsuits, .inr ⟨henabled, .inr ⟨hseverity, .inr ⟨hincluded, _, hv, hstrings⟩⟩⟩⟩
  · have hkeys : s.unknownKeys raw ≠ [] := fun h ↦ hknown (unknownKeys_eq_nil_iff.1 h)
    have herror : s.validate linter raw =
        .error (.unknownOptions linter (s.unknownKeys raw) (builtInOptions ++ s.names)) := by
      unfold validate
      exact if_pos (by simpa using hkeys)
    rw [herror, Except.error.injEq]
    constructor
    · rintro rfl
      exact .unknown (unknownKeys_eq s raw) hkeys
    · intro h
      cases h with
      | unknown hfilter _ => rw [hfilter, unknownKeys_eq]
      | _ h => exact absurd h hknown

theorem category_of_notStrings {key : String} {v : Value} (h : NotStrings key v e) :
    e.category = .linterConfiguration := by
  cases h <;> rfl

theorem Refuses.category (h : s.Refuses linter raw e) : e.category = .linterConfiguration := by
  cases h with
  | included _ _ _ _ _ h => exact category_of_notStrings h
  | excluded _ _ _ _ _ _ h => exact category_of_notStrings h
  | _ => rfl

theorem keys_of_validate {c : Settings} (h : s.validate linter raw = .ok c) :
    Fields.keys c.options = s.names := by
  obtain ⟨-, -, -, -, -, -, -, hoptions⟩ := validate_eq_ok.1 h
  simp [hoptions, Fields.keys, names]

theorem get?_of_validate (hs : s.Consistent) {c : Settings} (h : s.validate linter raw = .ok c)
    {d : String × OptionSpec} (hd : d ∈ s.options) :
    c.get? d.1 = some (optionValue raw d.1 d.2) := by
  obtain ⟨-, -, -, -, -, -, -, hoptions⟩ := validate_eq_ok.1 h
  have hnodup : (Fields.keys c.options).Nodup := keys_of_validate h ▸ hs.nodup
  refine Fields.get?_of_mem hnodup ?_
  rw [hoptions]
  exact List.mem_map_of_mem hd

end Verdict

/-- A schema that options are declared in is consistent, whatever is declared. It accepts exactly
the maps with known keys and well-typed values, and gives each declared option the value in the map,
or else its default, or else null. An error is about all unknown keys or else about the first option
that is in the way, and names it. -/
theorem validate_exact (attempts : List (String × String × OptionSpec)) (linter : String)
    (raw : Fields) :
    (ofAttempts attempts).Consistent ∧
    ((∃ c, (ofAttempts attempts).validate linter raw = .ok c) ↔
      (ofAttempts attempts).Accepts raw) ∧
    (∀ c, (ofAttempts attempts).validate linter raw = .ok c →
      Fields.keys c.options = (ofAttempts attempts).names ∧
      ∀ d ∈ (ofAttempts attempts).options,
        c.get? d.1 = some ((raw.get? d.1).getD (d.2.default.getD .null))) ∧
    ∀ e, (ofAttempts attempts).validate linter raw = .error e →
      (ofAttempts attempts).Refuses linter raw e ∧ e.category = .linterConfiguration ∧
      ∀ option ∈ e.options, Mentions e.message option := by
  have hs := consistent_ofAttempts attempts
  refine ⟨hs, exists_validate_iff hs, fun c hc ↦ ⟨keys_of_validate hc, fun d hd ↦ ?_⟩,
    fun e he ↦ ?_⟩
  · rw [get?_of_validate hs hc hd, optionValue]
    cases raw.get? d.1 <;> simp
  · have hrefuses := (validate_eq_error hs).1 he
    exact ⟨hrefuses, hrefuses.category, e.mentions_options⟩

def threeAttempts : List (String × String × OptionSpec) :=
  [("L", "max", ⟨.integer, some (.int 80), ""⟩), ("L", "note", ⟨.any, none, ""⟩),
    ("L", "enabled", ⟨.boolean, none, ""⟩)]

theorem validate_exact_null : ∃ e,
    (ofAttempts threeAttempts).validate "L" [("enabled", .string "yes"), ("max", .null)] =
      .error e ∧ e.options = ["max"] ∧ Mentions e.message "max" := by
  obtain ⟨-, -, -, herror⟩ :=
    validate_exact threeAttempts "L" [("enabled", .string "yes"), ("max", .null)]
  exact ⟨_, rfl, rfl, (herror _ rfl).2.2 "max" (List.mem_singleton.2 rfl)⟩

section Projection

variable {c : Settings}

theorem keys_toFields (c : Settings) : Fields.keys c.toFields =
    "enabled" :: "severity" :: "exclude" ::
      ((c.included.map fun _ ↦ "include").toList ++ Fields.keys c.options) := by
  cases h : c.included <;> simp [Settings.toFields, Fields.keys, h]

theorem nodup_keys_toFields (hs : s.Consistent) (h : Fields.keys c.options = s.names) :
    (Fields.keys c.toFields).Nodup := by
  have hbuiltIn : ∀ name ∈ builtInOptions, name ∉ s.names := fun name hname hmem ↦
    hs.not_builtIn name hmem hname
  simp only [builtInOptions, List.forall_mem_cons] at hbuiltIn
  obtain ⟨henabled, hseverity, hincluded, hexcluded, -⟩ := hbuiltIn
  rw [keys_toFields, h]
  cases c.included <;> simp [henabled, hseverity, hincluded, hexcluded, hs.nodup]

theorem knows_toFields (h : Fields.keys c.options = s.names) : s.Knows c.toFields := by
  intro key hkey
  rw [keys_toFields, h] at hkey
  cases hincluded : c.included <;> simp [hincluded] at hkey <;> simp [builtInOptions] <;> tauto

theorem ofName_name_of_checkSeverity {severity : Severity}
    (h : checkSeverity linter value = .ok severity) : Severity.ofName severity.name = severity := by
  unfold checkSeverity at h
  split at h
  · cases h
    rfl
  · cases h
    rfl
  · cases h
    rw [Severity.name_ofName]
  · cases h

/-- The settings of a valid map, written as a map in whatever order, are valid and give themselves
back. -/
theorem validate_of_perm_toFields (attempts : List (String × String × OptionSpec))
    (linter : String) (raw raw' : Fields) (c : Settings)
    (hc : (ofAttempts attempts).validate linter raw = .ok c) (hraw' : raw'.Perm c.toFields) :
    (ofAttempts attempts).validate linter raw' = .ok c := by
  have hs := consistent_ofAttempts attempts
  generalize ofAttempts attempts = s at hs hc ⊢
  obtain ⟨-, haccepts, -, hseverity, -, -, hlinter, hoptions⟩ := validate_eq_ok.1 hc
  have hkeys := keys_of_validate hc
  have hperm : (Fields.keys raw').Perm (Fields.keys c.toFields) := hraw'.map _
  have hget {key : String} {v : Value} (h : (key, v) ∈ c.toFields) : raw'.get? key = some v :=
    Fields.get?_of_mem (hperm.nodup_iff.2 (nodup_keys_toFields hs hkeys)) (hraw'.mem_iff.2 h)
  have henabled : raw'.get? "enabled" = some (.bool c.enabled) :=
    hget (by simp [Settings.toFields])
  have hseverity' : raw'.get? "severity" = some (.string c.severity.name) :=
    hget (by simp [Settings.toFields])
  have hexcluded : raw'.get? "exclude" = some (.array (c.excluded.map .string)) :=
    hget (by simp [Settings.toFields])
  have hvalue {d : String × OptionSpec} (hd : d ∈ s.options) :
      optionValue raw' d.1 d.2 = optionValue raw d.1 d.2 := by
    have hmem : (d.1, optionValue raw d.1 d.2) ∈ c.options := hoptions ▸ List.mem_map_of_mem hd
    have hraw : raw'.get? d.1 = some (optionValue raw d.1 d.2) :=
      hget (by simp [Settings.toFields, hmem])
    simp only [optionValue, hraw, Option.some_or, Option.getD_some]
  refine validate_eq_ok.2 ⟨?_, ?_, ?_, ?_, ?_, ?_, hlinter, ?_⟩
  · exact fun key hkey ↦ knows_toFields hkeys key (hperm.mem_iff.1 hkey)
  · intro d hd
    rw [hvalue hd]
    exact haccepts d hd
  · rw [henabled, checkEnabled]
  · rw [hseverity', checkSeverity, ofName_name_of_checkSeverity hseverity]
  · cases hincluded : c.included with
    | none =>
      have hinclude : "include" ∉ s.names := fun h ↦ hs.not_builtIn _ h (by simp [builtInOptions])
      have hnone : raw'.get? "include" = none := by
        rw [Fields.get?_eq_none_iff, hperm.mem_iff, keys_toFields, hincluded, hkeys]
        simpa using hinclude
      rw [hnone, checkIncluded]
    | some texts =>
      have hsome : raw'.get? "include" = some (.array (texts.map .string)) :=
        hget (by simp [Settings.toFields, hincluded])
      rw [hsome, checkIncluded_of_ne_null (by simp), stringList_array_eq_ok.2 rfl]
      rfl
  · rw [hexcluded, stringList_array_eq_ok]
  · rw [hoptions]
    exact List.map_congr_left fun d hd ↦ by rw [hvalue hd]

def rawNote : Fields :=
  [("include", .string "*.md"), ("note", .null), ("severity", .string "odd")]

theorem validate_of_perm_toFields_reversed : ∃ c,
    (ofAttempts threeAttempts).validate "L" rawNote = .ok c ∧ c.severity = .other "odd" ∧
    c.included = some ["*.md"] ∧
    (ofAttempts threeAttempts).validate "L" c.toFields.reverse = .ok c :=
  ⟨⟨"L", false, .other "odd", some ["*.md"], [], [("max", .int 80), ("note", .null)]⟩, rfl, rfl,
    rfl, validate_of_perm_toFields threeAttempts "L" rawNote _ _ rfl (List.reverse_perm _)⟩

end Projection

end Schema

end LintEngine
