import LintEngine.Proofs.OutputOptions

namespace LintEngine

def Destination.file? : Destination → Option Path
  | .standardOutput => none
  | .file path => some path

namespace Arguments

section Grouping

def leadingOuts : List OutputFlag → List Path
  | .out path :: rest => path :: leadingOuts rest
  | _ => []

def sections : List OutputFlag → List (String × List Path)
  | [] => []
  | .format name :: rest => (name, leadingOuts rest) :: sections rest
  | .out _ :: rest => sections rest

def requestsFor (name : String) (paths : List Path) : List FormatterRequest :=
  if paths = [] then [⟨name, .standardOutput⟩] else paths.map fun path ↦ ⟨name, .file path⟩

def grouped (flags : List OutputFlag) : List FormatterRequest :=
  (leadingOuts flags).map (fun path ↦ ⟨Formatters.defaultName, .file path⟩) ++
    (sections flags).flatMap fun s ↦ requestsFor s.1 s.2

theorem requestsFor_file? (name : String) (d : Destination) :
    requestsFor name d.file?.toList = [⟨name, d⟩] := by
  cases d <;> rfl

theorem requestsFor_cons (name : String) (path : Path) (paths : List Path) :
    requestsFor name (path :: paths) = (path :: paths).map fun path ↦ ⟨name, .file path⟩ := by
  rw [requestsFor, if_neg (List.cons_ne_nil path paths)]

theorem foldl_addOutput (flags : List OutputFlag) (name : String) (d : Destination)
    (requests : List FormatterRequest) :
    (flags.foldl addOutput (⟨name, d⟩ :: requests)).reverse =
      requests.reverse ++ (requestsFor name (d.file?.toList ++ leadingOuts flags) ++
        (sections flags).flatMap fun s ↦ requestsFor s.1 s.2) := by
  induction flags generalizing name d requests with
  | nil =>
    have hleading : leadingOuts [] = [] := rfl
    rw [hleading, List.append_nil, requestsFor_file?]
    simp [sections]
  | cons flag flags ih =>
    cases flag with
    | format next =>
      have hleading : leadingOuts (.format next :: flags) = [] := rfl
      rw [List.foldl_cons, addOutput, ih, hleading, List.append_nil, requestsFor_file?]
      simp [sections, Destination.file?]
    | out path =>
      have hleading : leadingOuts (.out path :: flags) = path :: leadingOuts flags := rfl
      cases d with
      | standardOutput =>
        rw [List.foldl_cons, addOutput, ih, hleading]
        rfl
      | file other =>
        rw [List.foldl_cons, addOutput, ih, hleading]
        simp [sections, Destination.file?, requestsFor_cons]

theorem foldl_addOutput_nil (flags : List OutputFlag) :
    (flags.foldl addOutput []).reverse = grouped flags := by
  cases flags with
  | nil => rfl
  | cons flag flags =>
    cases flag with
    | format name =>
      rw [List.foldl_cons, addOutput, foldl_addOutput]
      rfl
    | out path =>
      rw [List.foldl_cons, addOutput, foldl_addOutput]
      simp [grouped, leadingOuts, sections, Destination.file?, requestsFor_cons]

variable (flags : List OutputFlag)

theorem outs_sections :
    leadingOuts flags ++ (sections flags).flatMap (·.2) = flags.filterMap OutputFlag.out? := by
  induction flags with
  | nil => rfl
  | cons flag flags ih =>
    cases flag with
    | format name =>
      rw [List.filterMap_cons_none rfl, ← ih]
      rfl
    | out path =>
      have hout : (OutputFlag.out path).out? = some path := rfl
      rw [List.filterMap_cons_some hout, ← ih]
      rfl

theorem formats_sections : (sections flags).map (·.1) = flags.filterMap OutputFlag.format? := by
  induction flags with
  | nil => rfl
  | cons flag flags ih =>
    cases flag with
    | format name =>
      have hformat : (OutputFlag.format name).format? = some name := rfl
      rw [List.filterMap_cons_some hformat, ← ih]
      rfl
    | out path =>
      rw [List.filterMap_cons_none rfl, ← ih]
      rfl

theorem files_requestsFor (name : String) (paths : List Path) :
    (requestsFor name paths).filterMap (·.destination.file?) = paths := by
  cases paths with
  | nil => rfl
  | cons path paths =>
    rw [requestsFor_cons, List.filterMap_map]
    exact List.filterMap_some

theorem files_grouped :
    (grouped flags).filterMap (·.destination.file?) = flags.filterMap OutputFlag.out? := by
  have hleading (paths : List Path) :
      (paths.map fun path ↦ (⟨Formatters.defaultName, .file path⟩ : FormatterRequest)).filterMap
        (·.destination.file?) = paths := by
    rw [List.filterMap_map]
    exact List.filterMap_some
  rw [grouped, List.filterMap_append, hleading, List.filterMap_flatMap, ← outs_sections]
  simp only [files_requestsFor]

theorem formats_sublist_grouped :
    (flags.filterMap OutputFlag.format?).Sublist ((grouped flags).map (·.name)) := by
  have hname (name : String) (paths : List Path) :
      [name].Sublist ((requestsFor name paths).map (·.name)) := by
    cases paths with
    | nil => exact .refl _
    | cons path paths =>
      rw [requestsFor_cons]
      exact (List.nil_sublist _).cons_cons name
  rw [← formats_sections, grouped, List.map_append, List.map_flatMap]
  refine List.Sublist.trans ?_ (List.sublist_append_right _ _)
  induction sections flags with
  | nil => exact .slnil
  | cons s rest ih => exact (hname s.1 s.2).append ih

theorem printed_sublist_formats :
    (((grouped flags).filter (·.destination = .standardOutput)).map (·.name)).Sublist
      (flags.filterMap OutputFlag.format?) := by
  have hfile (name : String) (paths : List Path) :
      (paths.map fun path ↦ (⟨name, .file path⟩ : FormatterRequest)).filter
        (·.destination = .standardOutput) = [] := by
    simp
  have hname (name : String) (paths : List Path) :
      (((requestsFor name paths).filter (·.destination = .standardOutput)).map (·.name)).Sublist
        [name] := by
    cases paths with
    | nil => exact .refl _
    | cons path paths =>
      rw [requestsFor_cons, hfile]
      exact List.nil_sublist _
  rw [← formats_sections, grouped, List.filter_append, hfile, List.nil_append, List.filter_flatMap,
    List.map_flatMap]
  induction sections flags with
  | nil => exact .slnil
  | cons s rest ih => exact (hname s.1 s.2).append ih

end Grouping

/-- The formatters that a command line asks for are those of its options about output, cut at the
formats, whatever the order in which formats and files are given. The files are those of the command
line in its order, each format comes up, and each gives at most one formatter that writes to
standard output. Every command line that can be read has its options at increasing places, and every
sequence of options can be written in the usual ways and is read as that sequence. -/
theorem formatterRequests_grouped :
    (∀ (a : Arguments) (flags : List (OutputFlag × ℕ)), a.Lists flags →
      a.formatterRequests = grouped (flags.map (·.1)) ∧
      a.formatterRequests.filterMap (·.destination.file?) = a.outs ∧
      a.formats.Sublist (a.formatterRequests.map (·.name)) ∧
      ((a.formatterRequests.filter (·.destination = .standardOutput)).map (·.name)).Sublist
        a.formats) ∧
    (∀ (texts : List String) (a : Arguments), parse texts = .ok a → ∃ flags, a.Lists flags) ∧
    ∀ (output : List OutputFlag) (texts : List (List String)),
      List.Forall₂ ArgumentReading.Spells output texts → .out ⟨""⟩ ∉ output →
      ∃ a, parse texts.flatten = .ok a ∧ a.formatterRequests = grouped output ∧
        a.formats = output.filterMap OutputFlag.format? ∧
        a.outs = output.filterMap OutputFlag.out? := by
  have hrequests (a : Arguments) (flags : List (OutputFlag × ℕ)) (h : a.Lists flags) :
      a.formatterRequests = grouped (flags.map (·.1)) := by
    rw [formatterRequests, h.outputs_eq, foldl_addOutput_nil]
  refine ⟨?_, ?_, ?_⟩
  · intro a flags h
    rw [hrequests a flags h, h.formats, h.outs]
    exact ⟨rfl, files_grouped _, formats_sublist_grouped _, printed_sublist_formats _⟩
  · intro texts a h
    exact exists_lists_of_parse h
  · intro output texts hs hvalue
    obtain ⟨a, flags, hparse, hlists, rfl⟩ := exists_parse_of_spells hs hvalue
    exact ⟨a, hparse, hrequests a flags hlists, hlists.formats, hlists.outs⟩

def interleaved : List OutputFlag :=
  [.out ⟨"a"⟩, .format "Json", .out ⟨"b"⟩, .out ⟨"c"⟩, .format "Default"]

theorem formatterRequests_grouped_interleaved :
    ∃ a flags, parse ["-oa", "--format=Json", "-o", "b", "--out", "c", "-fDefault"] = .ok a ∧
      a.Lists flags ∧ a.formatterRequests = grouped (flags.map (·.1)) ∧
      a.formatterRequests = [⟨"Default", .file ⟨"a"⟩⟩, ⟨"Json", .file ⟨"b"⟩⟩, ⟨"Json", .file ⟨"c"⟩⟩,
        ⟨"Default", .standardOutput⟩] := by
  have happart (c : Char) (hc : c ≠ '-') : ∀ d rest, [c] ≠ '-' :: d :: rest := by
    intro d rest h
    exact hc (List.cons.inj h).1
  have hs : List.Forall₂ ArgumentReading.Spells interleaved
      [["-oa"], ["--format=Json"], ["-o", "b"], ["--out", "c"], ["-fDefault"]] :=
    .cons (@ArgumentReading.Spells.shortDirect (.out ⟨"a"⟩) 'a' [] rfl (by decide)) <|
    .cons .long <|
    .cons (.shortApart (happart 'b' (by decide))) <|
    .cons (.longApart (happart 'c' (by decide))) <|
    .cons (@ArgumentReading.Spells.shortDirect (.format "Default") 'D' "efault".toList rfl
      (by decide)) .nil
  obtain ⟨hlists, hparsed, hspelled⟩ := formatterRequests_grouped
  obtain ⟨a, ha, hrequests, -⟩ := hspelled interleaved _ hs (by decide)
  obtain ⟨flags, hflags⟩ := hparsed _ a ha
  exact ⟨a, flags, ha, hflags, (hlists a flags hflags).1, hrequests⟩

end Arguments

end LintEngine
