import LintEngine.CommandLine.Arguments
import LintEngine.Proofs.Related
import Mathlib.Data.List.Nodup
import Mathlib.Data.List.TakeWhile
import Mathlib.Data.Nat.Basic

namespace LintEngine

namespace OutputFlag

def format? : OutputFlag → Option String
  | .format name => some name
  | .out _ => none

def out? : OutputFlag → Option Path
  | .format _ => none
  | .out path => some path

def option : OutputFlag → Flag
  | .format _ => .format
  | .out _ => .out

def value : OutputFlag → String
  | .format name => name
  | .out path => path.text

def name : OutputFlag → String
  | .format _ => "format"
  | .out _ => "out"

def letter : OutputFlag → Char
  | .format _ => 'f'
  | .out _ => 'o'

end OutputFlag

namespace Arguments

def formatAt? (x : OutputFlag × ℕ) : Option (String × ℕ) := x.1.format?.map (·, x.2)

def outAt? (x : OutputFlag × ℕ) : Option (Path × ℕ) := x.1.out?.map (·, x.2)

/-- The options about output that a command line has, in order and with their places. -/
structure Lists (a : Arguments) (flags : List (OutputFlag × ℕ)) : Prop where
  increasing : flags.Pairwise fun x y ↦ x.2 < y.2
  formats_eq : a.formatValues = flags.filterMap formatAt?
  outs_eq : a.outValues = flags.filterMap outAt?

variable {a a' : Arguments} {flags : List (OutputFlag × ℕ)}

theorem Lists.formats (h : a.Lists flags) :
    a.formats = (flags.map (·.1)).filterMap OutputFlag.format? := by
  rw [Arguments.formats, h.formats_eq, List.map_filterMap, List.filterMap_map]
  simp [formatAt?, Function.comp_def]

theorem Lists.outs (h : a.Lists flags) :
    a.outs = (flags.map (·.1)).filterMap OutputFlag.out? := by
  rw [Arguments.outs, h.outs_eq, List.map_filterMap, List.filterMap_map]
  simp [outAt?, Function.comp_def]

theorem perm_flags (flags : List (OutputFlag × ℕ)) :
    ((flags.filterMap formatAt?).map (fun x ↦ (OutputFlag.format x.1, x.2)) ++
      (flags.filterMap outAt?).map fun x ↦ (OutputFlag.out x.1, x.2)).Perm flags := by
  induction flags with
  | nil => exact .refl _
  | cons flag flags ih =>
    obtain ⟨flag, place⟩ := flag
    cases flag with
    | format name => exact ih.cons _
    | out path => exact List.perm_middle.trans (ih.cons _)

theorem Lists.outputs_eq (h : a.Lists flags) : a.outputs = flags.map (·.1) := by
  have hperm := perm_flags flags
  rw [← h.formats_eq, ← h.outs_eq] at hperm
  have hle : flags.Pairwise fun x y ↦ decide (x.2 ≤ y.2) = true :=
    h.increasing.imp fun hlt ↦ decide_eq_true hlt.le
  have hnodup : (flags.map (·.2)).Nodup := List.pairwise_map.2 (h.increasing.imp ne_of_lt)
  rw [Arguments.outputs]
  refine congrArg (List.map (·.1)) (List.Perm.eq_of_pairwise ?_
    (List.pairwise_mergeSort ?_ ?_ _) hle ((List.mergeSort_perm _ _).trans hperm))
  · intro x y hx hy hxy hyx
    have hmem : x ∈ flags := hperm.subset (List.mem_mergeSort.1 hx)
    have hplace : x.2 = y.2 := le_antisymm (of_decide_eq_true hxy) (of_decide_eq_true hyx)
    exact List.inj_on_of_nodup_map hnodup hmem hy hplace
  · intro x y z hxy hyz
    simp only [decide_eq_true_eq] at hxy hyz ⊢
    omega
  · intro x y
    simp only [Bool.or_eq_true, decide_eq_true_eq]
    omega

def added (flag : Flag) (given : List String) : List OutputFlag :=
  match flag with
  | .format => (values flag given).map .format
  | .out => (values flag given).map fun text ↦ .out ⟨text⟩
  | _ => []

theorem length_added (flag : Flag) (given : List String) :
    (added flag given).length ≤ (values flag given).length := by
  cases flag <;> simp [added]

theorem Lists.congr (h : a.Lists flags) (hformats : a'.formatValues = a.formatValues)
    (houts : a'.outValues = a.outValues) : a'.Lists flags :=
  ⟨h.increasing, hformats.trans h.formats_eq, houts.trans h.outs_eq⟩

theorem Lists.append (h : a.Lists flags) {place : ℕ} (hplace : ∀ x ∈ flags, x.2 < place)
    {new : List OutputFlag}
    (hformats : a'.formatValues = a.formatValues ++ (new.zipIdx place).filterMap formatAt?)
    (houts : a'.outValues = a.outValues ++ (new.zipIdx place).filterMap outAt?) :
    a'.Lists (flags ++ new.zipIdx place) where
  increasing := by
    refine List.pairwise_append.2 ⟨h.increasing, pairwise_zipIdx new place, ?_⟩
    intro x hx y hy
    exact (hplace x hx).trans_le (List.le_snd_of_mem_zipIdx hy)
  formats_eq := by rw [hformats, h.formats_eq, List.filterMap_append]
  outs_eq := by rw [houts, h.outs_eq, List.filterMap_append]

theorem filterMap_format (names : List String) (place : ℕ) :
    ((names.map OutputFlag.format).zipIdx place).filterMap formatAt? = names.zipIdx place ∧
    ((names.map OutputFlag.format).zipIdx place).filterMap outAt? = [] := by
  rw [List.zipIdx_map, List.filterMap_map, List.filterMap_map]
  exact ⟨List.filterMap_some, List.filterMap_eq_nil_iff.2 fun _ _ ↦ rfl⟩

theorem filterMap_out (paths : List Path) (place : ℕ) :
    ((paths.map OutputFlag.out).zipIdx place).filterMap formatAt? = [] ∧
    ((paths.map OutputFlag.out).zipIdx place).filterMap outAt? = paths.zipIdx place := by
  rw [List.zipIdx_map, List.filterMap_map, List.filterMap_map]
  exact ⟨List.filterMap_eq_nil_iff.2 fun _ _ ↦ rfl, List.filterMap_some⟩

theorem path_eq_ok {text : String} {p : Path} : path text = .ok p ↔ text ≠ "" ∧ p = ⟨text⟩ := by
  unfold path
  split
  · next h => simp [h]
  · next h => simp [h, eq_comm]

theorem eq_map_of_paths {texts : List String} {paths : List Path}
    (h : texts.mapM path = .ok paths) : paths = texts.map Path.mk := by
  have hall := Result.forall₂_of_mapM h
  have hmap : texts.map Path.mk = paths.map id :=
    map_eq_map hall fun text p hp ↦ (path_eq_ok.1 hp).2.symm
  rw [hmap, List.map_id]

theorem Lists.store (h : a.Lists flags) {flag : Flag} {place : ℕ} {given : List String}
    (hplace : ∀ x ∈ flags, x.2 < place) (hs : a.store flag place given = .ok a') :
    a'.Lists (flags ++ (added flag given).zipIdx place) := by
  have hkeep {a' : Arguments} (hformats : a'.formatValues = a.formatValues)
      (houts : a'.outValues = a.outValues) :
      a'.Lists (flags ++ ([] : List OutputFlag).zipIdx place) := by
    rw [List.zipIdx_nil, List.append_nil]
    exact h.congr hformats houts
  cases flag with
  | format =>
    cases hs
    obtain ⟨hformats, houts⟩ := filterMap_format given place
    refine h.append hplace ?_ ?_
    · exact congrArg (a.formatValues ++ ·) hformats.symm
    · exact (List.append_nil _).symm.trans (congrArg (a.outValues ++ ·) houts.symm)
  | out =>
    obtain ⟨paths, hpaths, hs⟩ := Result.bind_eq_ok.1 hs
    cases hs
    have hadded : added .out given = paths.map OutputFlag.out := by
      rw [eq_map_of_paths hpaths, List.map_map]
      rfl
    obtain ⟨hformats, houts⟩ := filterMap_out paths place
    rw [hadded]
    refine h.append hplace ?_ ?_
    · exact (List.append_nil _).symm.trans (congrArg (a.formatValues ++ ·) hformats.symm)
    · exact congrArg (a.outValues ++ ·) houts.symm
  | config | stdinFilePath =>
    obtain ⟨paths, -, hs⟩ := Result.bind_eq_ok.1 hs
    cases hs
    exact hkeep rfl rfl
  | concurrency =>
    rw [Arguments.store] at hs
    split at hs
    · cases hs
      exact hkeep rfl rfl
    · cases hs
  | help | version => cases hs
  | includeLinter | excludeLinter | excludePath | plugin | showLinters | showFormatters | showDocs
  | debug | verbose =>
    cases hs
    exact hkeep rfl rfl

end Arguments

namespace ArgumentReading

open Arguments Result

/-- What has been read so far of a command line has the given options about output, all at places
that have been counted. -/
structure Holds (r : ArgumentReading) (flags : List (OutputFlag × ℕ)) : Prop where
  lists : r.arguments.Lists flags
  counted : ∀ x ∈ flags, x.2 ≤ r.count

def Orderly (r : ArgumentReading) : Prop := ∃ flags, r.Holds flags

variable {r r' : ArgumentReading} {flags : List (OutputFlag × ℕ)}

theorem takeFlag_eq_ok {flag : Flag} {values : List String} (h : r.takeFlag flag values = .ok r') :
    ∃ a, r.arguments.store flag (r.count + 2) values = .ok a ∧
      r' = { r with
        arguments := a
        count := r.count + 1 + (Arguments.values flag values).length
        given := flag :: r.given } := by
  rw [takeFlag] at h
  split at h
  · cases h
  · split at h
    · cases h
    · obtain ⟨a, ha, h⟩ := bind_eq_ok.1 h
      cases h
      exact ⟨a, ha, rfl⟩

theorem Holds.takeFlag (h : r.Holds flags) {flag : Flag} {values : List String}
    (ht : r.takeFlag flag values = .ok r') :
    r'.Holds (flags ++ (added flag values).zipIdx (r.count + 2)) := by
  obtain ⟨a, ha, rfl⟩ := takeFlag_eq_ok ht
  have hbefore : ∀ x ∈ flags, x.2 < r.count + 2 := by
    intro x hx
    have hle := h.counted x hx
    omega
  refine ⟨h.lists.store hbefore ha, ?_⟩
  intro x hx
  have hlength := length_added flag values
  rcases List.mem_append.1 hx with hx | hx
  · have hle := h.counted x hx
    change x.2 ≤ r.count + 1 + _
    omega
  · have hlt := List.snd_lt_add_of_mem_zipIdx hx
    change x.2 ≤ r.count + 1 + _
    omega

theorem holds_start : start.Holds [] := ⟨⟨.nil, rfl, rfl⟩, by simp⟩

theorem Orderly.congr (h : r.Orderly) (harguments : r'.arguments = r.arguments)
    (hcount : r'.count = r.count) : r'.Orderly := by
  obtain ⟨flags, hlists, hcounted⟩ := h
  exact ⟨flags, harguments ▸ hlists, hcount ▸ hcounted⟩

theorem Orderly.takeFlag (h : r.Orderly) (flag : Flag) (values : List String) :
    Yields Orderly (r.takeFlag flag values) := by
  obtain ⟨flags, hflags⟩ := h
  cases ht : r.takeFlag flag values with
  | ok r' => exact ⟨_, hflags.takeFlag ht⟩
  | error _ => trivial

theorem Orderly.resolve (h : r.Orderly) : Yields Orderly r.resolve := by
  rw [ArgumentReading.resolve]
  split
  · exact h
  · refine Orderly.takeFlag ?_ _ _
    exact h.congr rfl rfl
  · obtain ⟨flags, hflags⟩ := h
    refine (Yields.any _).bind fun paths _ ↦ ?_
    refine ⟨flags, hflags.lists.congr rfl rfl, ?_⟩
    intro x hx
    exact (hflags.counted x hx).trans (Nat.le_add_right _ _)

theorem Orderly.react (h : r.Orderly) (flag : Flag) (values : List String) :
    Yields Orderly (r.react flag values) :=
  h.resolve.bind fun _ hr ↦ hr.takeFlag flag values

theorem Orderly.await (h : r.Orderly) (flag : Flag) : Yields Orderly (r.await flag) :=
  h.resolve.bind fun _ hr ↦ hr.congr rfl rfl

theorem Orderly.plain (h : r.Orderly) (text : String) : Yields Orderly (r.plain text) := by
  rw [ArgumentReading.plain]
  split
  · exact h.congr rfl rfl
  · exact h.congr rfl rfl
  · exact h.resolve.bind fun _ hr ↦ hr.congr rfl rfl

theorem Orderly.long (h : r.Orderly) (text : List Char) : Yields Orderly (r.long text) := by
  rw [ArgumentReading.long]
  split
  · trivial
  · split
    · exact h.react _ _
    · trivial
  · split
    · exact h.await _
    · exact h.react _ _

theorem Orderly.short (h : r.Orderly) (letters : List Char) : Yields Orderly (r.short letters) := by
  induction letters generalizing r with
  | nil => exact h
  | cons letter rest ih =>
    rw [ArgumentReading.short]
    split
    · trivial
    · split
      · split
        · exact h.await _
        · exact h.react _ _
        · exact h.react _ _
      · exact (h.react _ _).bind fun _ hr ↦ ih hr

theorem Orderly.next (h : r.Orderly) (text : String) : Yields Orderly (r.next text) := by
  rw [ArgumentReading.next]
  split
  · exact h.plain text
  · split
    · exact h.congr rfl rfl
    · exact h.long _
    · exact h.short _
    · exact h.plain text

theorem Orderly.foldlM (h : r.Orderly) (texts : List String) :
    Yields Orderly (texts.foldlM ArgumentReading.next r) := by
  induction texts generalizing r with
  | nil => exact h
  | cons text rest ih =>
    rw [List.foldlM_cons]
    exact (h.next text).bind fun _ hr ↦ ih hr

section Spelling

/-- The ways to write an option about output: with its long name or its letter, and with its value
attached or apart. A value apart must not look like an option. -/
inductive Spells (flag : OutputFlag) : List String → Prop
  | long : Spells flag ["--" ++ flag.name ++ "=" ++ flag.value]
  | longApart : (∀ c rest, flag.value.toList ≠ '-' :: c :: rest) →
      Spells flag ["--" ++ flag.name, flag.value]
  | short : Spells flag ["-" ++ flag.letter.toString ++ "=" ++ flag.value]
  | shortDirect {c : Char} {rest : List Char} : flag.value.toList = c :: rest → c ≠ '=' →
      Spells flag ["-" ++ flag.letter.toString ++ flag.value]
  | shortApart : (∀ c rest, flag.value.toList ≠ '-' :: c :: rest) →
      Spells flag ["-" ++ flag.letter.toString, flag.value]

variable {flag : OutputFlag} {r₀ r₁ : ArgumentReading}

theorem takeFlag_kept {option : Flag} {values : List String}
    (h : r.takeFlag option values = .ok r') :
    r'.pending = r.pending ∧ r'.trailing = r.trailing := by
  obtain ⟨a, -, rfl⟩ := takeFlag_eq_ok h
  exact ⟨rfl, rfl⟩

theorem resolve_kept (h : r.resolve = .ok r₀) :
    r₀.pending = .none ∧ r₀.trailing = r.trailing := by
  rw [ArgumentReading.resolve] at h
  split at h
  · next hpending =>
    cases h
    exact ⟨hpending, rfl⟩
  · exact takeFlag_kept h
  · obtain ⟨paths, -, h⟩ := bind_eq_ok.1 h
    cases h
    exact ⟨rfl, rfl⟩

section Next

variable (ht : r.trailing = false)
include ht

theorem next_hyphens {text : String} {rest : List Char} (htext : text.toList = '-' :: '-' :: rest)
    (hne : rest ≠ []) : r.next text = r.long rest := by
  rw [ArgumentReading.next, ht, htext, if_neg (by decide)]
  cases rest with
  | nil => exact absurd rfl hne
  | cons c rest => rfl

theorem next_hyphen {text : String} {c : Char} {rest : List Char}
    (htext : text.toList = '-' :: c :: rest) (hc : c ≠ '-') :
    r.next text = r.short (c :: rest) := by
  rw [ArgumentReading.next, ht, htext]
  simp [hc]

theorem next_plain {text : String} (htext : ∀ c rest, text.toList ≠ '-' :: c :: rest) :
    r.next text = r.plain text := by
  rw [ArgumentReading.next, ht, if_neg (by decide)]
  split
  · next h => exact absurd h (htext _ _)
  · next h => exact absurd h (htext _ _)
  · next h => exact absurd h (htext _ _)
  · rfl

end Next

theorem ofLong?_name (flag : OutputFlag) : Flag.ofLong? flag.name = some flag.option := by
  cases flag with
  | format name => exact (by decide : Flag.ofLong? "format" = some .format)
  | out path => exact (by decide : Flag.ofLong? "out" = some .out)

theorem ofShort?_letter (flag : OutputFlag) : Flag.ofShort? flag.letter = some flag.option := by
  cases flag with
  | format name => exact (by decide : Flag.ofShort? 'f' = some .format)
  | out path => exact (by decide : Flag.ofShort? 'o' = some .out)

theorem takesValue_option (flag : OutputFlag) : flag.option.takesValue = true := by
  cases flag <;> rfl

theorem letter_ne (flag : OutputFlag) : flag.letter ≠ '-' := by
  cases flag with
  | format name => exact (by decide : 'f' ≠ '-')
  | out path => exact (by decide : 'o' ≠ '-')

theorem name_ne_nil (flag : OutputFlag) : flag.name.toList ≠ [] := by
  cases flag with
  | format name => exact (by decide : "format".toList ≠ [])
  | out path => exact (by decide : "out".toList ≠ [])

theorem equals_not_mem_name (flag : OutputFlag) :
    ∀ c ∈ flag.name.toList, decide (c ≠ '=') = true := by
  cases flag with
  | format name => exact List.all_eq_true.1 (by decide : "format".toList.all (· ≠ '=') = true)
  | out path => exact List.all_eq_true.1 (by decide : "out".toList.all (· ≠ '=') = true)

theorem long_value (flag : OutputFlag) (value : List Char) :
    r.long (flag.name.toList ++ '=' :: value) = r.react flag.option [.ofList value] := by
  have hne := equals_not_mem_name flag
  simp only [ArgumentReading.long, List.takeWhile_append_of_pos hne,
    List.dropWhile_append_of_pos hne, ofLong?_name, takesValue_option, ↓reduceIte,
    List.takeWhile_cons, List.dropWhile_cons, ne_eq, not_true_eq_false, decide_false,
    Bool.false_eq_true, List.append_nil, String.ofList_toList]

theorem long_name (flag : OutputFlag) : r.long flag.name.toList = r.await flag.option := by
  have hne := equals_not_mem_name flag
  have htake : flag.name.toList.takeWhile (· ≠ '=') = flag.name.toList :=
    List.takeWhile_eq_self_iff.2 hne
  have hdrop : flag.name.toList.dropWhile (· ≠ '=') = [] := List.dropWhile_eq_nil_iff.2 hne
  simp only [ArgumentReading.long, htake, hdrop, ofLong?_name, takesValue_option, ↓reduceIte,
    String.ofList_toList]

theorem short_equals (flag : OutputFlag) (value : List Char) :
    r.short (flag.letter :: '=' :: value) = r.react flag.option [.ofList value] := by
  simp only [ArgumentReading.short, ofShort?_letter, takesValue_option, ↓reduceIte]

theorem short_direct (flag : OutputFlag) {c : Char} (hc : c ≠ '=') (value : List Char) :
    r.short (flag.letter :: c :: value) = r.react flag.option [.ofList (c :: value)] := by
  rw [ArgumentReading.short]
  simp only [ofShort?_letter, takesValue_option, ↓reduceIte]
  split
  · next h => cases h
  · next h => exact absurd (List.cons.inj h).1 hc
  · rfl

theorem short_letter (flag : OutputFlag) : r.short [flag.letter] = r.await flag.option := by
  simp only [ArgumentReading.short, ofShort?_letter, takesValue_option, ↓reduceIte]

theorem react_eq (hr : r.resolve = .ok r₀) (h : r₀.takeFlag flag.option [flag.value] = .ok r₁) :
    r.react flag.option [flag.value] = .ok r₁ := by
  rw [ArgumentReading.react, hr]
  exact h

theorem await_plain (hr : r.resolve = .ok r₀) (ht : r.trailing = false)
    (hplain : ∀ c rest, flag.value.toList ≠ '-' :: c :: rest)
    (h : r₀.takeFlag flag.option [flag.value] = .ok r₁) :
    ∃ r', (r.await flag.option >>= fun r ↦ r.next flag.value) = .ok r' ∧ r'.trailing = false ∧
      r'.resolve = .ok r₁ := by
  obtain ⟨hpending, htrailing⟩ := resolve_kept hr
  rw [ht] at htrailing
  refine ⟨{ r₀ with pending := some (.flag flag.option [flag.value]) }, ?_, htrailing, ?_⟩
  · rw [ArgumentReading.await, hr]
    have hnext := next_plain (r := { r₀ with pending := some (.flag flag.option []) }) htrailing
      hplain
    refine hnext.trans ?_
    rw [ArgumentReading.plain, htrailing]
  · have hr₀ : { r₀ with pending := .none } = r₀ := by rw [← hpending]
    rw [ArgumentReading.resolve, hr₀]
    exact h

theorem foldlM_of_spells {texts : List String} (hs : Spells flag texts) (hr : r.resolve = .ok r₀)
    (ht : r.trailing = false) (h : r₀.takeFlag flag.option [flag.value] = .ok r₁) :
    ∃ r', texts.foldlM ArgumentReading.next r = .ok r' ∧ r'.trailing = false ∧
      r'.resolve = .ok r₁ := by
  have hkept := takeFlag_kept h
  have htrailing : r₁.trailing = false := by rw [hkept.2, (resolve_kept hr).2, ht]
  have hresolve : r₁.resolve = .ok r₁ := by
    rw [ArgumentReading.resolve, hkept.1, (resolve_kept hr).1]
  have hreact := react_eq hr h
  have hone (text : String) : [text].foldlM ArgumentReading.next r = r.next text := by simp
  have htwo (text text' : String) : [text, text'].foldlM ArgumentReading.next r =
      (r.next text >>= fun r ↦ r.next text') := by simp
  cases hs with
  | long =>
    have htext : ("--" ++ flag.name ++ "=" ++ flag.value).toList =
        '-' :: '-' :: (flag.name.toList ++ '=' :: flag.value.toList) := by simp
    refine ⟨r₁, ?_, htrailing, hresolve⟩
    rw [hone, next_hyphens ht htext (by simp), long_value, String.ofList_toList, hreact]
  | longApart hplain =>
    have htext : ("--" ++ flag.name).toList = '-' :: '-' :: flag.name.toList := by simp
    obtain ⟨r', hr', hkept'⟩ := await_plain hr ht hplain h
    refine ⟨r', ?_, hkept'⟩
    rw [htwo, next_hyphens ht htext (name_ne_nil flag), long_name, hr']
  | short =>
    have htext : ("-" ++ flag.letter.toString ++ "=" ++ flag.value).toList =
        '-' :: flag.letter :: '=' :: flag.value.toList := by simp
    refine ⟨r₁, ?_, htrailing, hresolve⟩
    rw [hone, next_hyphen ht htext (letter_ne flag), short_equals, String.ofList_toList, hreact]
  | @shortDirect c rest hvalue hc =>
    have htext : ("-" ++ flag.letter.toString ++ flag.value).toList =
        '-' :: flag.letter :: c :: rest := by simp [hvalue]
    refine ⟨r₁, ?_, htrailing, hresolve⟩
    rw [hone, next_hyphen ht htext (letter_ne flag), short_direct flag hc, ← hvalue,
      String.ofList_toList, hreact]
  | shortApart hplain =>
    have htext : ("-" ++ flag.letter.toString).toList = ['-', flag.letter] := by simp
    obtain ⟨r', hr', hkept'⟩ := await_plain hr ht hplain h
    refine ⟨r', ?_, hkept'⟩
    rw [htwo, next_hyphen ht htext (letter_ne flag), short_letter, hr']

theorem added_option (flag : OutputFlag) : added flag.option [flag.value] = [flag] := by
  cases flag <;> rfl

theorem exists_store (hvalue : flag ≠ .out ⟨""⟩) (a : Arguments) (place : ℕ) :
    ∃ a', a.store flag.option place [flag.value] = .ok a' := by
  cases flag with
  | format name => exact ⟨_, rfl⟩
  | out file =>
    have hfile : file.text ≠ "" := by
      intro hempty
      exact hvalue (congrArg OutputFlag.out (congrArg Path.mk hempty))
    have hpaths : [file.text].mapM path = .ok [file] :=
      mapM_eq_ok_iff.2 (.cons (path_eq_ok.2 ⟨hfile, rfl⟩) .nil)
    exact ⟨_, bind_eq_ok.2 ⟨[file], hpaths, rfl⟩⟩

theorem takeFlag_output (hvalue : flag ≠ .out ⟨""⟩) (hr : r.Holds flags) :
    ∃ r', r.takeFlag flag.option [flag.value] = .ok r' ∧
      r'.Holds (flags ++ [(flag, r.count + 2)]) := by
  obtain ⟨a, ha⟩ := exists_store hvalue r.arguments (r.count + 2)
  have htaken : ∃ r', r.takeFlag flag.option [flag.value] = .ok r' := by
    rw [ArgumentReading.takeFlag, ha]
    cases flag <;> exact ⟨_, rfl⟩
  obtain ⟨r', hr'⟩ := htaken
  refine ⟨r', hr', ?_⟩
  have hholds := hr.takeFlag hr'
  rw [added_option] at hholds
  exact hholds

theorem foldlM_of_all_spell {output : List OutputFlag} {texts : List (List String)}
    (hs : List.Forall₂ Spells output texts) (hvalue : .out ⟨""⟩ ∉ output)
    (hr : r.resolve = .ok r₀) (ht : r.trailing = false) (hflags : r₀.Holds flags) :
    ∃ r' r₁ more, texts.flatten.foldlM ArgumentReading.next r = .ok r' ∧ r'.resolve = .ok r₁ ∧
      r₁.Holds (flags ++ more) ∧ more.map (·.1) = output := by
  induction hs generalizing r r₀ flags with
  | nil => exact ⟨r, r₀, [], rfl, hr, by simpa using hflags, rfl⟩
  | @cons flag text output texts hspells _ ih =>
    rw [List.mem_cons, not_or] at hvalue
    obtain ⟨r₁, htaken, hholds⟩ := takeFlag_output (Ne.symm hvalue.1) hflags
    obtain ⟨r', hread, ht', hresolve⟩ := foldlM_of_spells hspells hr ht htaken
    obtain ⟨r'', r₂, more, hrest, hresolve', hmore, hmap⟩ := ih hvalue.2 hresolve ht' hholds
    refine ⟨r'', r₂, (flag, r₀.count + 2) :: more, ?_, hresolve', ?_, ?_⟩
    · rw [List.flatten_cons, List.foldlM_append, hread]
      exact hrest
    · rw [List.append_assoc, List.singleton_append] at hmore
      exact hmore
    · rw [List.map_cons, hmap]

end Spelling

end ArgumentReading

namespace Arguments

theorem exists_lists_of_parse {texts : List String} {a : Arguments} (h : parse texts = .ok a) :
    ∃ flags, a.Lists flags := by
  obtain ⟨r, hr, h⟩ := Result.bind_eq_ok.1 h
  obtain ⟨r', hr', h⟩ := Result.bind_eq_ok.1 h
  cases h
  have hread := (ArgumentReading.Orderly.foldlM ⟨[], ArgumentReading.holds_start⟩ texts).of_eq hr
  obtain ⟨flags, hflags⟩ := hread.resolve.of_eq hr'
  exact ⟨flags, hflags.lists⟩

theorem exists_parse_of_spells {output : List OutputFlag} {texts : List (List String)}
    (hs : List.Forall₂ ArgumentReading.Spells output texts) (hvalue : .out ⟨""⟩ ∉ output) :
    ∃ a flags, parse texts.flatten = .ok a ∧ a.Lists flags ∧ flags.map (·.1) = output := by
  obtain ⟨r, r₁, flags, hread, hresolve, hflags, hmap⟩ :=
    ArgumentReading.foldlM_of_all_spell (r := .start) hs hvalue rfl rfl ArgumentReading.holds_start
  refine ⟨r₁.arguments, flags, ?_, hflags.lists, hmap⟩
  rw [parse, hread]
  change (r.resolve >>= fun r ↦ Except.ok r.arguments) = _
  rw [hresolve]
  rfl

end Arguments

end LintEngine
