import LintEngine.Proofs.Merge
import LintEngine.Proofs.Related
import LintEngine.Selection
import Mathlib.Data.List.Find

namespace LintEngine

namespace Registry

variable {r : Registry} {name : String} {d : Descriptor}

theorem name_of_get? (h : r.get? name = some d) : d.name = name := by
  simpa using List.find?_some h

theorem get?_eq_none_iff : r.get? name = none ↔ name ∉ r.names := by
  simp [Registry.get?, Registry.names, List.find?_eq_none]

theorem exists_get? (h : name ∈ r.names) : ∃ d, r.get? name = some d := by
  rw [← Option.isSome_iff_exists, ← Option.ne_none_iff_isSome, Ne, get?_eq_none_iff]
  exact not_not_intro h

end Registry

namespace Selection

/-- Whether the table of linters in a configuration enables a linter. -/
def enables (c : Configuration) (linter : String) : Bool :=
  match c.fields.at? ["linters", linter, "enabled"] with
  | some (.bool b) => b
  | _ => false

def candidates (r : Registry) (c : Configuration) (requested : List String) : List String :=
  if requested = [] then r.names.filter (enables c) else requested

def chosen (r : Registry) (c : Configuration) (requested excluded : List String) : List String :=
  ((candidates r c requested).filter (· ∉ excluded)).eraseDups

/-- The first name of a list that no linter has. -/
def FirstUnknown (r : Registry) (names : List String) (name : String) : Prop :=
  ∃ before after, names = before ++ name :: after ∧ (∀ n ∈ before, n ∈ r.names) ∧ name ∉ r.names

/-- A linter has options that it accepts and patterns that can be read. -/
def Valid (r : Registry) (c : Configuration) (name : String) : Prop :=
  ∃ d settings, r.get? name = some d ∧ d.validate (c.forLinter name) = .ok settings ∧
    (∀ patterns ∈ settings.included, ∀ p ∈ patterns, ∃ glob, Glob.compile p = .ok glob) ∧
    ∀ p ∈ settings.excluded, ∃ glob, Glob.compile p = .ok glob

def matchesPattern (workingDirectory file : Path) (pattern : String) : Bool :=
  (Glob.compile pattern).toOption.any fun glob ↦
    Glob.matchesEither (Glob.matchesText glob) workingDirectory file

/-- Whether the options of a linter let it run on a file: one of the included patterns matches, if
there are any such, and none of the excluded ones. -/
def runsOn (r : Registry) (c : Configuration) (workingDirectory file : Path) (name : String) :
    Bool :=
  (r.get? name).any fun d ↦
    match d.validate (c.forLinter name) with
    | .ok settings =>
      settings.included.all (·.any (matchesPattern workingDirectory file)) &&
        !settings.excluded.any (matchesPattern workingDirectory file)
    | .error _ => false

def setUp (r : Registry) (c : Configuration) (name : String) : Except Error Instance :=
  match r.get? name with
  | some d => d.validate (c.forLinter name) >>= d.instantiate
  | none => .error (.noSuchLinter name)

section Names

variable {r : Registry} {c : Configuration} {names : List String} {name : String}

theorem lookUp_of_firstUnknown (h : FirstUnknown r names name) :
    lookUp r names = .error (.noSuchLinter name) := by
  obtain ⟨before, after, rfl, hbefore, hname⟩ := h
  refine Result.mapM_eq_error_iff.2 ⟨before, name, after, rfl, fun n hn ↦ ?_, ?_⟩
  · obtain ⟨d, hd⟩ := Registry.exists_get? (hbefore n hn)
    exact ⟨d, by rw [hd]⟩
  · rw [Registry.get?_eq_none_iff.2 hname]

theorem lookUp_of_known (h : ∀ n ∈ names, n ∈ r.names) :
    ∃ ds, lookUp r names = .ok ds ∧ ds.map (·.name) = names ∧
      ∀ d ∈ ds, r.get? d.name = some d := by
  have hall : ∀ n ∈ names, ∃ d, (match r.get? n with
      | some d => Except.ok d
      | none => .error (Error.noSuchLinter n)) = .ok d := fun n hn ↦ by
    obtain ⟨d, hd⟩ := Registry.exists_get? (h n hn)
    exact ⟨d, by rw [hd]⟩
  obtain ⟨ds, hds⟩ := Result.exists_mapM_iff.2 hall
  have hpairs : List.Forall₂ (fun n d ↦ r.get? n = some d) names ds := by
    refine (Result.forall₂_of_mapM hds).imp fun n d hnd ↦ ?_
    split at hnd
    · next d' hd' => rw [hd', Except.ok.inj hnd]
    · cases hnd
  refine ⟨ds, hds, ?_, fun d hd ↦ ?_⟩
  · have hmap := map_eq_map hpairs (f := id) (g := (·.name)) fun n d hd ↦
      (Registry.name_of_get? hd).symm
    rw [← hmap, List.map_id]
  · obtain ⟨n, -, hn⟩ := exists_of_mem_right hpairs hd
    rw [Registry.name_of_get? hn, hn]

theorem get?_forLinter {key : String} (h : key ≠ "severity") (c : Configuration)
    (linter : String) : (c.forLinter linter).get? key = (c.linterFields linter).get? key := by
  unfold Configuration.forLinter
  dsimp only
  split
  · rw [Fields.get?_insert, if_neg h]
  · rfl

theorem at?_linters (c : Configuration) (linter key : String) :
    c.fields.at? ["linters", linter, key] = (c.linterFields linter).get? key := by
  unfold Configuration.linterFields Configuration.get?
  rw [Fields.at?_cons]
  cases c.fields.get? "linters" with
  | none => rfl
  | some linters =>
    cases linters with
    | map linters =>
      simp only [Option.bind_some, Value.asMap?, Value.at?]
      cases hl : Fields.get? linters linter with
      | none => rfl
      | some fields =>
        cases fields with
        | map fields => simp [Value.asMap?, Value.at?]
        | _ => rfl
    | _ => rfl

theorem isEnabled_eq (c : Configuration) (linter : String) :
    isEnabled c linter = enables c linter := by
  have hget : (c.forLinter linter).get? "enabled" =
      c.fields.at? ["linters", linter, "enabled"] := by
    rw [get?_forLinter (by decide), at?_linters]
  exact congrArg (fun value : Option Value ↦ match value with
    | some (.bool b) => b
    | _ => false) hget

theorem map_name_dropSeen (seen : List String) (ds : List Descriptor) :
    (dropSeen seen ds).map (·.name) = ((ds.map (·.name)).filter (· ∉ seen)).eraseDups := by
  induction ds generalizing seen with
  | nil => rfl
  | cons d rest ih =>
    rw [dropSeen, List.map_cons]
    by_cases h : d.name ∈ seen
    · rw [if_pos (by simpa using h), ih, List.filter_cons_of_neg (by simpa using h)]
    · rw [if_neg (by simpa using h), List.map_cons, ih, List.filter_cons_of_pos (by simpa using h),
        List.eraseDups_cons, List.filter_filter]
      congr 2
      refine List.filter_congr fun n _ ↦ ?_
      by_cases hn : n = d.name <;> simp [hn]

theorem not_mem_of_mem_dropSeen {seen : List String} {ds : List Descriptor} {d : Descriptor}
    (h : d ∈ dropSeen seen ds) : d.name ∉ seen := by
  have hname : d.name ∈ (dropSeen seen ds).map (·.name) := List.mem_map_of_mem h
  rw [map_name_dropSeen, List.mem_eraseDups, List.mem_filter] at hname
  simpa using hname.2

theorem find?_of_mem_dropSeen {seen : List String} {ds : List Descriptor} {d : Descriptor}
    (h : d ∈ dropSeen seen ds) : ds.find? (·.name = d.name) = some d := by
  induction ds generalizing seen with
  | nil => cases h
  | cons x rest ih =>
    have hskip {seen : List String} (hx : x.name ∈ seen) (hd : d ∈ dropSeen seen rest) :
        (x :: rest).find? (·.name = d.name) = some d := by
      have hne : x.name ≠ d.name := fun he ↦ not_mem_of_mem_dropSeen hd (he ▸ hx)
      rw [List.find?_cons_of_neg (by simpa using hne), ih hd]
    rw [dropSeen] at h
    split at h
    · next hx => exact hskip (by simpa using hx) h
    · rcases List.mem_cons.1 h with rfl | h
      · rw [List.find?_cons_of_pos (by simp)]
      · exact hskip (by simp) h

theorem get?_of_mem_dropSeen_enabled {seen : List String} {d : Descriptor}
    (h : d ∈ dropSeen seen (r.linters.filter fun d ↦ isEnabled c d.name)) :
    r.get? d.name = some d := by
  have hfind := find?_of_mem_dropSeen h
  obtain ⟨-, henabled⟩ := List.mem_filter.1 (List.mem_of_find?_eq_some hfind)
  rw [List.find?_filter] at hfind
  rw [← hfind, Registry.get?]
  refine List.find?_congr fun x _ ↦ ?_
  by_cases hx : x.name = d.name
  · simp [hx, henabled]
  · simp [hx]

def emptied (r : Registry) (c : Configuration) (requested : List String) : Error :=
  if requested ≠ [] then .requestedExcluded
  else if candidates r c requested = [] then .noneEnabled
  else .enabledExcluded

/-- If all names are known, the chosen linters are configured in turn, unless there are none. -/
theorem make_of_known {requested excluded : List String}
    (hrequested : ∀ n ∈ requested, n ∈ r.names) (hexcluded : ∀ n ∈ excluded, n ∈ r.names) :
    ∃ selected : List Descriptor, selected.map (·.name) = chosen r c requested excluded ∧
      (∀ d ∈ selected, r.get? d.name = some d) ∧
      make r c requested excluded =
        if chosen r c requested excluded = [] then .error (emptied r c requested)
        else selected.mapM (SelectedLinter.configure c) >>= fun linters ↦ .ok ⟨linters⟩ := by
  obtain ⟨ds, hds, hnames, hget⟩ := lookUp_of_known hrequested
  obtain ⟨es, hes, henames, -⟩ := lookUp_of_known hexcluded
  have hempty : ds.isEmpty = true ↔ requested = [] := by
    rw [List.isEmpty_iff, ← hnames, List.map_eq_nil_iff]
  generalize hincluded : (if ds.isEmpty then r.linters.filter fun d ↦ isEnabled c d.name else ds) =
    included
  have hcandidates : included.map (·.name) = candidates r c requested := by
    rw [← hincluded, candidates]
    by_cases h : requested = []
    · rw [if_pos (hempty.2 h), if_pos h, Registry.names, List.filter_map]
      congr 1
      exact List.filter_congr fun d _ ↦ isEnabled_eq c d.name
    · rw [if_neg (fun he ↦ h (hempty.1 he)), if_neg h, hnames]
  have hchosen : (remaining included es).map (·.name) = chosen r c requested excluded := by
    rw [remaining, map_name_dropSeen, hcandidates, henames, chosen]
  have hwhy : noLinters ds included = emptied r c requested := by
    unfold noLinters emptied
    rw [← hcandidates]
    by_cases h : requested = []
    · simp [h, hempty.2 h, List.isEmpty_iff]
    · have hne : ds.isEmpty = false := by rwa [Bool.eq_false_iff, Ne, hempty]
      simp [h, hne]
  refine ⟨remaining included es, hchosen, fun d hd ↦ ?_, ?_⟩
  · rw [remaining, ← hincluded] at hd
    split at hd
    · exact get?_of_mem_dropSeen_enabled hd
    · exact hget d (List.mem_of_find?_eq_some (find?_of_mem_dropSeen hd))
  · have hnil : (remaining included es).isEmpty = true ↔ chosen r c requested excluded = [] := by
      rw [List.isEmpty_iff, ← hchosen, List.map_eq_nil_iff]
    unfold make
    rw [hds, hes]
    change (if (remaining (if ds.isEmpty then _ else ds) es).isEmpty then _ else _) = _
    rw [hincluded]
    by_cases h : chosen r c requested excluded = []
    · rw [if_pos (hnil.2 h), if_pos h, hwhy]
    · rw [if_neg (fun he ↦ h (hnil.1 he)), if_neg h]

end Names

section Configuring

open Result

variable {r : Registry} {c : Configuration} {d : Descriptor} {l : SelectedLinter}

theorem exists_compile_iff {patterns : List String} :
    (∃ globs, Glob.Any.compile patterns = .ok globs) ↔
      ∀ p ∈ patterns, ∃ glob, Glob.compile p = .ok glob := by
  simp only [Glob.Any.compile_eq_ok, ← exists_mapM_iff]
  exact ⟨fun ⟨globs, h⟩ ↦ ⟨globs.globs, h⟩, fun ⟨globs, h⟩ ↦ ⟨⟨globs⟩, h⟩⟩

abbrev IsLinterConfiguration (e : Error) : Prop := e.category = .linterConfiguration

theorem stringList_failsOnly (key : String) (value : Option Value) :
    FailsOnly IsLinterConfiguration (stringList key value) := by
  unfold stringList
  split
  · exact .ok _
  · exact .ok _
  · exact .ok _
  · refine .mapM fun item _ ↦ ?_
    split
    · exact .ok _
    · exact .error rfl
  · exact .error rfl

theorem checkOption_failsOnly (linter : String) (raw : Fields) (declared : String × OptionSpec) :
    FailsOnly IsLinterConfiguration (Schema.checkOption linter raw declared) := by
  unfold Schema.checkOption
  dsimp only
  split
  · exact .ok _
  · exact .error rfl

theorem checkEnabled_failsOnly (linter : String) (value : Option Value) :
    FailsOnly IsLinterConfiguration (Schema.checkEnabled linter value) := by
  unfold Schema.checkEnabled
  split
  · exact .ok _
  · exact .ok _
  · exact .ok _
  · exact .error rfl

theorem checkSeverity_failsOnly (linter : String) (value : Option Value) :
    FailsOnly IsLinterConfiguration (Schema.checkSeverity linter value) := by
  unfold Schema.checkSeverity
  split
  · exact .ok _
  · exact .ok _
  · exact .ok _
  · exact .error rfl

theorem checkIncluded_failsOnly (value : Option Value) :
    FailsOnly IsLinterConfiguration (Schema.checkIncluded value) := by
  unfold Schema.checkIncluded
  split
  · exact .ok _
  · exact .ok _
  · exact (stringList_failsOnly _ _).map some

theorem validate_failsOnly (d : Descriptor) (raw : Fields) :
    FailsOnly IsLinterConfiguration (d.validate raw) := by
  unfold Descriptor.validate Schema.validate
  dsimp only
  split
  · exact .error rfl
  · refine .bind (.mapM fun declared _ ↦ checkOption_failsOnly _ _ declared) fun options ↦ ?_
    refine (checkEnabled_failsOnly _ _).bind fun enabled ↦ ?_
    refine (checkSeverity_failsOnly _ _).bind fun severity ↦ ?_
    refine (checkIncluded_failsOnly _).bind fun included ↦ ?_
    exact (stringList_failsOnly _ _).bind fun excluded ↦ .ok _

theorem compile_failsOnly (linter : String) (list : PatternList) (patterns : List String) :
    FailsOnly IsLinterConfiguration (SelectedLinter.compile linter list patterns) := by
  unfold SelectedLinter.compile
  cases Glob.Any.compile patterns with
  | ok globs => exact .ok globs
  | error fault => exact .error rfl

theorem configure_failsOnly (c : Configuration) (d : Descriptor) :
    FailsOnly IsLinterConfiguration (SelectedLinter.configure c d) := by
  unfold SelectedLinter.configure
  refine (validate_failsOnly d _).bind fun settings ↦ .bind ?_ fun included ↦ ?_
  · unfold SelectedLinter.compileIncluded
    split
    · exact .ok none
    · exact (compile_failsOnly _ _ _).map some
  · exact (compile_failsOnly _ _ _).bind fun excluded ↦ .ok _

theorem compileIncluded_eq_ok {linter : String} {patterns : Option (List String)}
    {globs : Option Glob.Any} :
    SelectedLinter.compileIncluded linter patterns = .ok globs ↔
      Option.Rel (fun ps gs ↦ Glob.Any.compile ps = .ok gs) patterns globs := by
  cases patterns with
  | none =>
    rw [SelectedLinter.compileIncluded, Except.ok.injEq]
    constructor
    · rintro rfl
      exact .none
    · rintro ⟨⟩
      rfl
  | some ps =>
    have hmap : SelectedLinter.compileIncluded linter (some ps) = .ok globs ↔
        ∃ gs, SelectedLinter.compile linter .included ps = .ok gs ∧ globs = some gs := by
      rw [SelectedLinter.compileIncluded]
      cases SelectedLinter.compile linter .included ps <;> simp [Except.map, eq_comm]
    simp only [hmap, SelectedLinter.compile, mapError_ok_iff]
    constructor
    · rintro ⟨gs, hgs, rfl⟩
      exact .some hgs
    · rintro ⟨⟩
      next gs hgs => exact ⟨gs, hgs, rfl⟩

theorem configure_eq_ok : SelectedLinter.configure c d = .ok l ↔
    l.descriptor = d ∧ d.validate (c.forLinter d.name) = .ok l.settings ∧
      Option.Rel (fun ps gs ↦ Glob.Any.compile ps = .ok gs) l.settings.included l.included ∧
      Glob.Any.compile l.settings.excluded = .ok l.excluded := by
  simp only [SelectedLinter.configure, bind_eq_ok, compileIncluded_eq_ok, SelectedLinter.compile,
    mapError_ok_iff]
  constructor
  · rintro ⟨settings, hsettings, included, hincluded, excluded, hexcluded, ⟨⟩⟩
    exact ⟨rfl, hsettings, hincluded, hexcluded⟩
  · rintro ⟨rfl, hsettings, hincluded, hexcluded⟩
    exact ⟨l.settings, hsettings, l.included, hincluded, l.excluded, hexcluded, rfl⟩

theorem exists_rel_compile_iff {patterns : Option (List String)} :
    (∃ globs, Option.Rel (fun ps gs ↦ Glob.Any.compile ps = .ok gs) patterns globs) ↔
      ∀ ps ∈ patterns, ∀ p ∈ ps, ∃ glob, Glob.compile p = .ok glob := by
  cases patterns with
  | none => exact ⟨fun _ ps hps ↦ (nomatch hps), fun _ ↦ ⟨none, .none⟩⟩
  | some ps =>
    constructor
    · rintro ⟨_, ⟨⟩⟩ _ ⟨⟩
      next gs hgs => exact exists_compile_iff.1 ⟨gs, hgs⟩
    · intro h
      obtain ⟨gs, hgs⟩ := exists_compile_iff.2 (h ps rfl)
      exact ⟨some gs, .some hgs⟩

theorem exists_configure_iff (hd : r.get? d.name = some d) :
    (∃ l, SelectedLinter.configure c d = .ok l) ↔ Valid r c d.name := by
  constructor
  · rintro ⟨l, hl⟩
    obtain ⟨-, hsettings, hincluded, hexcluded⟩ := configure_eq_ok.1 hl
    exact ⟨d, l.settings, hd, hsettings, exists_rel_compile_iff.1 ⟨_, hincluded⟩,
      exists_compile_iff.1 ⟨_, hexcluded⟩⟩
  · rintro ⟨d', settings, hd', hsettings, hincluded, hexcluded⟩
    cases hd.symm.trans hd'
    obtain ⟨included, hincluded⟩ := exists_rel_compile_iff.2 hincluded
    obtain ⟨excluded, hexcluded⟩ := exists_compile_iff.2 hexcluded
    exact ⟨⟨d, settings, included, excluded⟩,
      configure_eq_ok.2 ⟨rfl, hsettings, hincluded, hexcluded⟩⟩

theorem matchesEither_any (globs : List (List Glob.Token)) (workingDirectory file : Path) :
    Glob.matchesEither (fun p ↦ globs.any fun glob ↦ Glob.matchesText glob p) workingDirectory
        file =
      globs.any fun glob ↦ Glob.matchesEither (Glob.matchesText glob) workingDirectory file := by
  induction globs with
  | nil => simp [Glob.matchesEither]
  | cons glob globs ih =>
    rw [List.any_cons, ← ih]
    unfold Glob.matchesEither
    dsimp only
    cases file.normalize.otherSpelling? workingDirectory with
    | none => simp
    | some other => simp [Bool.or_left_comm, Bool.or_assoc]

theorem matchesFile_eq {patterns : List String} {globs : Glob.Any} (workingDirectory file : Path)
    (h : Glob.Any.compile patterns = .ok globs) :
    globs.matchesFile workingDirectory file =
      patterns.any (matchesPattern workingDirectory file) := by
  have hpairs := mapM_eq_ok_iff.1 (Glob.Any.compile_eq_ok.1 h)
  have hmatches := matchesEither_any globs.globs workingDirectory file
  rw [Glob.Any.matchesFile]
  refine hmatches.trans ?_
  clear hmatches h
  generalize globs.globs = compiled at hpairs
  induction hpairs with
  | nil => rfl
  | cons hp _ ih =>
    rw [List.any_cons, List.any_cons, ih, matchesPattern, hp]
    rfl

theorem appliesTo_eq (hd : r.get? d.name = some d) (hl : SelectedLinter.configure c d = .ok l)
    (workingDirectory file : Path) :
    l.appliesTo workingDirectory file = runsOn r c workingDirectory file d.name := by
  obtain ⟨-, hsettings, hincluded, hexcluded⟩ := configure_eq_ok.1 hl
  have hall : l.included.all (·.matchesFile workingDirectory file) =
      l.settings.included.all (·.any (matchesPattern workingDirectory file)) := by
    generalize l.settings.included = patterns, l.included = globs at hincluded
    cases hincluded with
    | none => rfl
    | some h => exact matchesFile_eq workingDirectory file h
  rw [SelectedLinter.appliesTo, runsOn, hd, Option.any_some, hsettings, hall,
    matchesFile_eq workingDirectory file hexcluded]

theorem setUp_eq (hd : r.get? d.name = some d) (hl : SelectedLinter.configure c d = .ok l) :
    l.descriptor.instantiate l.settings = setUp r c d.name := by
  obtain ⟨hdescriptor, hsettings, -, -⟩ := configure_eq_ok.1 hl
  rw [setUp, hd, hdescriptor]
  dsimp only
  rw [hsettings]
  rfl

theorem forFile_eq {selected : List Descriptor} {linters : List SelectedLinter}
    (hselected : ∀ d ∈ selected, r.get? d.name = some d)
    (h : List.Forall₂ (fun d l ↦ SelectedLinter.configure c d = .ok l) selected linters)
    (workingDirectory file : Path) :
    (Selection.mk linters).forFile workingDirectory file =
      ((selected.map (·.name)).filter (runsOn r c workingDirectory file)).mapM (setUp r c) := by
  unfold forFile
  dsimp only
  induction h with
  | nil => rfl
  | @cons d l selected linters hl _ ih =>
    obtain ⟨hd, hselected⟩ := List.forall_mem_cons.1 hselected
    rw [List.map_cons, List.filter_cons, List.filter_cons, appliesTo_eq hd hl]
    split
    · rw [List.mapM_cons, List.mapM_cons, ih hselected, setUp_eq hd hl]
    · exact ih hselected

theorem names_eq {selected : List Descriptor} {linters : List SelectedLinter}
    (h : List.Forall₂ (fun d l ↦ SelectedLinter.configure c d = .ok l) selected linters) :
    (Selection.mk linters).names = selected.map (·.name) := by
  refine (map_eq_map h fun d l hl ↦ ?_).symm
  rw [(configure_eq_ok.1 hl).1]

theorem name_of_setUp {name : String} {i : Instance} (h : setUp r c name = .ok i) :
    i.name = name := by
  unfold setUp at h
  split at h
  · next d hd =>
    obtain ⟨settings, -, h⟩ := bind_eq_ok.1 h
    obtain ⟨scan, -, ⟨⟩⟩ := bind_eq_ok.1 h
    exact Registry.name_of_get? hd
  · cases h

theorem make_of_invalid {requested excluded before after : List String} {name : String}
    (hrequested : ∀ n ∈ requested, n ∈ r.names) (hexcluded : ∀ n ∈ excluded, n ∈ r.names)
    (hchosen : chosen r c requested excluded = before ++ name :: after)
    (hbefore : ∀ n ∈ before, Valid r c n) (hname : ¬ Valid r c name) :
    ∃ d e, r.get? name = some d ∧ SelectedLinter.configure c d = .error e ∧
      e.category = .linterConfiguration ∧ make r c requested excluded = .error e := by
  obtain ⟨selected, hnames, hselected, hmake⟩ := make_of_known (c := c) hrequested hexcluded
  obtain ⟨ds, rest, rfl, rfl, hrest⟩ := List.map_eq_append_iff.1 (hnames.trans hchosen)
  obtain ⟨d, ds', rfl, rfl, -⟩ := List.map_eq_cons_iff.1 hrest
  have hd := hselected d (by simp)
  obtain ⟨e, he⟩ : ∃ e, SelectedLinter.configure c d = .error e := by
    cases hl : SelectedLinter.configure c d with
    | ok l => exact absurd ((exists_configure_iff hd).1 ⟨l, hl⟩) hname
    | error e => exact ⟨e, rfl⟩
  have hmapM : (ds ++ d :: ds').mapM (SelectedLinter.configure c) = .error e := by
    refine mapM_eq_error_iff.2 ⟨ds, d, ds', rfl, fun x hx ↦ ?_, he⟩
    exact (exists_configure_iff (hselected x (by simp [hx]))).2
      (hbefore x.name (List.mem_map_of_mem hx))
  refine ⟨d, e, hd, he, configure_failsOnly c d e he, ?_⟩
  rw [hmake, if_neg (by simp [hchosen]), hmapM]
  rfl

theorem make_of_valid {requested excluded : List String}
    (hrequested : ∀ n ∈ requested, n ∈ r.names) (hexcluded : ∀ n ∈ excluded, n ∈ r.names)
    (hne : chosen r c requested excluded ≠ [])
    (hvalid : ∀ n ∈ chosen r c requested excluded, Valid r c n) :
    ∃ selection, make r c requested excluded = .ok selection ∧
      selection.names = chosen r c requested excluded ∧
      ∀ workingDirectory file, selection.forFile workingDirectory file =
        ((chosen r c requested excluded).filter (runsOn r c workingDirectory file)).mapM
          (setUp r c) := by
  obtain ⟨selected, hnames, hselected, hmake⟩ := make_of_known (c := c) hrequested hexcluded
  have hall : ∀ d ∈ selected, ∃ l, SelectedLinter.configure c d = .ok l := fun d hd ↦
    (exists_configure_iff (hselected d hd)).2
      (hvalid d.name (hnames ▸ List.mem_map_of_mem hd))
  obtain ⟨linters, hlinters⟩ := exists_mapM_iff.2 hall
  have hpairs := forall₂_of_mapM hlinters
  refine ⟨⟨linters⟩, ?_, (names_eq hpairs).trans hnames, fun workingDirectory file ↦ ?_⟩
  · rw [hmake, if_neg hne, hlinters]
    rfl
  · rw [forFile_eq hselected hpairs, hnames]

end Configuring

/-- Selecting linters fails with the first requested name that is unknown, or else the first
excluded one. Otherwise the requested linters, or else the enabled ones in the order of their
registration, are left, each once and without the excluded ones. If none is left, the error says
why; if one of them is not configured as it should be, it is that of the first such linter; and else
they are selected in this order. For a file those of them are set up in turn that have no included
patterns or one that matches, and no excluded pattern that matches. -/
theorem make_exact (r : Registry) (c : Configuration) (requested excluded : List String) :
    (∀ name, FirstUnknown r requested name →
      make r c requested excluded = .error (.noSuchLinter name)) ∧
    (∀ name, (∀ n ∈ requested, n ∈ r.names) → FirstUnknown r excluded name →
      make r c requested excluded = .error (.noSuchLinter name)) ∧
    ((∀ n ∈ requested, n ∈ r.names) → (∀ n ∈ excluded, n ∈ r.names) →
      (chosen r c requested excluded = [] → ∃ e, make r c requested excluded = .error e ∧
        e.category = .noLinters ∧ e.message =
          if requested ≠ [] then "All specified linters were explicitly excluded!"
          else if candidates r c requested = [] then
            "All linters are disabled. Enable some in your configuration!"
          else "All enabled linters were explicitly excluded!") ∧
      (∀ before name after, chosen r c requested excluded = before ++ name :: after →
        (∀ n ∈ before, Valid r c n) → ¬ Valid r c name →
        ∃ d e, r.get? name = some d ∧ SelectedLinter.configure c d = .error e ∧
          e.category = .linterConfiguration ∧ make r c requested excluded = .error e) ∧
      (chosen r c requested excluded ≠ [] →
        (∀ n ∈ chosen r c requested excluded, Valid r c n) →
        ∃ selection, make r c requested excluded = .ok selection ∧
          selection.names = chosen r c requested excluded ∧
          ∀ workingDirectory file,
            (∀ instances, selection.forFile workingDirectory file = .ok instances ↔
              List.Forall₂ (fun n i ↦ setUp r c n = .ok i)
                ((chosen r c requested excluded).filter (runsOn r c workingDirectory file))
                instances) ∧
            (∀ instances, selection.forFile workingDirectory file = .ok instances →
              instances.map (·.name) =
                (chosen r c requested excluded).filter (runsOn r c workingDirectory file)) ∧
            ∀ e, selection.forFile workingDirectory file = .error e ↔ ∃ before n after,
              (chosen r c requested excluded).filter (runsOn r c workingDirectory file) =
                before ++ n :: after ∧
              (∀ m ∈ before, ∃ i, setUp r c m = .ok i) ∧ setUp r c n = .error e)) := by
  refine ⟨fun name hname ↦ ?_, fun name hrequested hname ↦ ?_, fun hrequested hexcluded ↦
    ⟨fun hnil ↦ ?_, fun before name after hchosen hbefore hname ↦
      make_of_invalid hrequested hexcluded hchosen hbefore hname, fun hne hvalid ↦ ?_⟩⟩
  · rw [make, lookUp_of_firstUnknown hname]
    rfl
  · obtain ⟨ds, hds, -⟩ := lookUp_of_known hrequested
    rw [make, hds, lookUp_of_firstUnknown hname]
    rfl
  · obtain ⟨selected, -, -, hmake⟩ := make_of_known (c := c) hrequested hexcluded
    refine ⟨_, hmake.trans (if_pos hnil), ?_⟩
    unfold emptied
    split
    · exact ⟨rfl, rfl⟩
    · split <;> exact ⟨rfl, rfl⟩
  · obtain ⟨selection, hmake, hnames, hforFile⟩ := make_of_valid hrequested hexcluded hne hvalid
    refine ⟨selection, hmake, hnames, fun workingDirectory file ↦ ?_⟩
    rw [hforFile]
    refine ⟨fun instances ↦ Result.mapM_eq_ok_iff, fun instances hinstances ↦ ?_,
      fun e ↦ Result.mapM_eq_error_iff⟩
    have hnames := map_eq_map (Result.mapM_eq_ok_iff.1 hinstances) (f := id) (g := (·.name))
      fun n i hi ↦ (name_of_setUp hi).symm
    rw [← hnames, List.map_id]

def namedAB : Registry :=
  ⟨["A", "B"].map fun name ↦ ⟨name, "", .empty, fun _ ↦ .ok fun _ ↦ .found []⟩⟩

def wrongForB : Configuration where
  fields := [("linters", .map [("A", .map [("include", .array [])]),
    ("B", .map [("enabled", .string "yes")])])]
  path := none

theorem valid_A : Valid namedAB wrongForB "A" := by
  refine ⟨_, _, rfl, rfl, ?_, ?_⟩
  · rintro _ ⟨⟩ p hp
    cases hp
  · intro p hp
    cases hp

theorem not_valid_B : ¬ Valid namedAB wrongForB "B" := by
  rintro ⟨d, settings, ⟨⟩, h, -⟩
  cases h

theorem make_exact_wrongForB :
    make namedAB wrongForB ["A", "C"] [] = .error (.noSuchLinter "C") ∧
    make namedAB wrongForB ["A"] ["C", "A"] = .error (.noSuchLinter "C") ∧
    (∃ e, make namedAB wrongForB [] [] = .error e ∧
      e.message = "All linters are disabled. Enable some in your configuration!") ∧
    (∃ e, make namedAB wrongForB ["A", "B"] [] = .error e ∧ e.category = .linterConfiguration) ∧
    ∃ selection, make namedAB wrongForB ["B", "A", "A"] ["B"] = .ok selection ∧
      selection.names = ["A"] ∧ selection.forFile ⟨"/"⟩ ⟨"a.txt"⟩ = .ok [] := by
  refine ⟨?_, ?_, ?_, ?_, ?_⟩
  · exact (make_exact namedAB wrongForB ["A", "C"] []).1 "C"
      ⟨["A"], [], rfl, by decide, by decide⟩
  · exact (make_exact namedAB wrongForB ["A"] ["C", "A"]).2.1 "C" (by decide)
      ⟨[], ["A"], rfl, by decide, by decide⟩
  · obtain ⟨e, he, -, hmessage⟩ :=
      ((make_exact namedAB wrongForB [] []).2.2 (by decide) (by decide)).1 (by decide)
    exact ⟨e, he, hmessage⟩
  · obtain ⟨_, e, -, -, hcategory, he⟩ :=
      ((make_exact namedAB wrongForB ["A", "B"] []).2.2 (by decide) (by decide)).2.1
        ["A"] "B" [] (by decide) (by simpa using valid_A) not_valid_B
    exact ⟨e, he, hcategory⟩
  · have hchosen : chosen namedAB wrongForB ["B", "A", "A"] ["B"] = ["A"] := by decide
    obtain ⟨selection, hmake, hnames, hforFile⟩ :=
      ((make_exact namedAB wrongForB ["B", "A", "A"] ["B"]).2.2 (by decide) (by decide)).2.2
        (by simp [hchosen]) (by simpa [hchosen] using valid_A)
    rw [hchosen] at hnames hforFile
    exact ⟨selection, hmake, hnames, ((hforFile ⟨"/"⟩ ⟨"a.txt"⟩).1 []).2 .nil⟩

end Selection

end LintEngine
