import LintEngine.Linter.BuiltIn
import LintEngine.Proofs.Jobs
import LintEngine.Proofs.Markers
import Mathlib.Data.List.DropRight
import Mathlib.Data.List.Infix
import Mathlib.Order.Bounds.Basic

namespace LintEngine

section Places

/-- A single place of a document, with its line and its column counted from one. -/
structure SourceRange.Inside (range : SourceRange) (document : Document) : Prop where
  line_pos : 1 ≤ range.first.line.toNat
  line_le : range.first.line.toNat ≤ document.lines.length
  column_pos : 1 ≤ range.first.column.toNat
  column_le : ∃ line, document.lines[range.first.line.toNat - 1]? = some line ∧
    range.first.column.toNat ≤ line.length
  single : range.last = range.first

def Fits (n : ℕ) : Prop := (UInt32.ofNat n).toNat = n ∧ (UInt32.ofNat n + 1).toNat = n + 1

/-- A byte at which a character of a line starts, the number of which fits. -/
def HasColumn (line : String) (offset : ℕ) : Prop :=
  String.Pos.Raw.IsValid line ⟨offset⟩ ∧
    ∃ n, Text.charactersBefore? offset line.toList = some n ∧ Fits n

variable {document : Document} {line : String} {index n : ℕ}

theorem Fits.of_lt (h : n + 1 < 2 ^ 32) : Fits n :=
  ⟨UInt32.toNat_ofNat_of_lt' (Nat.lt_of_succ_lt h), toNat_ofNat_add_one h⟩

theorem Finding.IsAt.inside {f : Finding} {place : ℕ} (h : f.IsAt (index + 1) (place + 1))
    (hline : document.lines[index]? = some line) (hplace : place < line.length) :
    f.range.Inside document := by
  obtain ⟨hindex, -⟩ := List.getElem?_eq_some_iff.1 hline
  obtain ⟨hfirst, hcolumn, hsingle⟩ := h
  refine ⟨by omega, by omega, by omega, ⟨line, ?_, by omega⟩, hsingle⟩
  rw [hfirst, Nat.add_sub_cancel, hline]

theorem hasColumn_byteOffset (hn : n < line.length) (hlength : line.length < 2 ^ 32) :
    HasColumn line (Text.byteOffset line.toList n) := by
  have hle : n ≤ line.toList.length := by
    rw [String.length_toList]
    omega
  exact ⟨Text.isValid_iff.2 ⟨n, hle, rfl⟩, n, Text.charactersBefore?_eq_some.2 ⟨hle, rfl⟩,
    .of_lt (by omega)⟩

end Places

namespace Scan

def Inside (s : Scan) (document : Document) : Prop :=
  s.ending = .done ∧ ∀ f ∈ s.findings, f.range.Inside document

/-- A scan that has findings about some lines, one about each of them. -/
structure Flags (s : Scan) (document : Document) (reports : String → ℕ → Prop) : Prop where
  once : s.findings.Pairwise fun f g ↦ f.range.first.line < g.range.first.line
  reported : ∀ index line, document.lines[index]? = some line → ∀ column,
    (∃ f ∈ s.findings, f.IsAt (index + 1) column) ↔ ∃ place, reports line place ∧ column = place + 1

section ByLine

variable {β : Type} {remarks : String → List Remark} {items : String → List β} {place : β → ℕ}
  {message : β → String} {document : Document}

theorem inside_byLine (h : ∀ line ∈ document.lines, remarks line =
      (items line).map fun b ↦ ⟨some (UInt32.ofNat (place b) + 1), message b⟩)
    (hplace : ∀ line ∈ document.lines, ∀ b ∈ items line, place b < line.length)
    (hcountable : document.Countable) :
    (byLine remarks document).Inside document := by
  obtain ⟨hdone, hall⟩ := forall₂_byLine h hplace hcountable
  refine ⟨hdone, ?_⟩
  intro f hf
  obtain ⟨x, hx, hat, -⟩ := exists_of_mem_right hall.flip hf
  obtain ⟨line, hline, hb⟩ := mem_itemsByLine.1 hx
  exact hat.inside hline (hplace line (List.mem_of_getElem? hline) x.2 hb)

theorem exists_isAt_byLine_iff (h : ∀ line ∈ document.lines, remarks line =
      (items line).map fun b ↦ ⟨some (UInt32.ofNat (place b) + 1), message b⟩)
    (hplace : ∀ line ∈ document.lines, ∀ b ∈ items line, place b < line.length)
    (hcountable : document.Countable) {index column : ℕ} {line : String}
    (hline : document.lines[index]? = some line) :
    (∃ f ∈ (byLine remarks document).findings, f.IsAt (index + 1) column) ↔
      ∃ b ∈ items line, column = place b + 1 := by
  obtain ⟨-, hall⟩ := forall₂_byLine h hplace hcountable
  constructor
  · rintro ⟨f, hf, hat⟩
    obtain ⟨x, hx, hat', -⟩ := exists_of_mem_right hall.flip hf
    obtain ⟨line', hline', hb⟩ := mem_itemsByLine.1 hx
    have hindex : x.1 = index := by
      have hfirst := hat.line_eq
      have hfirst' := hat'.line_eq
      omega
    rw [hindex, hline, Option.some_inj] at hline'
    subst hline'
    exact ⟨x.2, hb, hat.column_eq.symm.trans hat'.column_eq⟩
  · rintro ⟨b, hb, rfl⟩
    have hx : (index, b) ∈ itemsByLine items document.lines := mem_itemsByLine.2 ⟨line, hline, hb⟩
    obtain ⟨f, hf, hat, -⟩ := exists_of_mem_right hall hx
    exact ⟨f, hf, hat⟩

end ByLine

section Flagged

variable {flagged : String → Prop} [DecidablePred flagged] {remarks : String → List Remark}
  {place : String → ℕ} {message : String → String} {document : Document}

def only (flagged : String → Prop) [DecidablePred flagged] (line : String) : List String :=
  if flagged line then [line] else []

theorem mem_only {line b : String} : b ∈ only flagged line ↔ flagged line ∧ b = line := by
  rw [only]
  split_ifs with h <;> simp [h]

theorem pairwise_only {R : String → String → Prop} (line : String) :
    (only flagged line).Pairwise R := by
  rw [only]
  split_ifs
  · exact List.pairwise_singleton R line
  · exact .nil

theorem flags_byLine (h : ∀ line ∈ document.lines, remarks line =
      (only flagged line).map fun b ↦ ⟨some (UInt32.ofNat (place b) + 1), message b⟩)
    (hplace : ∀ line ∈ document.lines, ∀ b ∈ only flagged line, place b < line.length)
    (hcountable : document.Countable) :
    (byLine remarks document).Flags document fun line p ↦ flagged line ∧ p = place line := by
  constructor
  · obtain ⟨-, hall⟩ := forall₂_byLine h hplace hcountable
    have heq : (byLine remarks document).findings.map (fun f ↦ f.range.first.line.toNat) =
        (itemsByLine (only flagged) document.lines).map fun x ↦ x.1 + 1 :=
      map_eq_map hall fun f x hat ↦ hat.1.line_eq
    have hlt : (itemsByLine (only flagged) document.lines).Pairwise fun x y ↦ x.1 + 1 < y.1 + 1 :=
      pairwise_itemsByLine (fun x y hxy ↦ Nat.succ_lt_succ hxy) fun line _ _ ↦ pairwise_only line
    rw [← List.pairwise_map, ← heq, List.pairwise_map] at hlt
    exact hlt.imp UInt32.lt_iff_toNat_lt.2
  · intro index line hline column
    rw [exists_isAt_byLine_iff h hplace hcountable hline]
    constructor
    · rintro ⟨b, hb, rfl⟩
      obtain ⟨hflagged, rfl⟩ := mem_only.1 hb
      exact ⟨place b, ⟨hflagged, rfl⟩, rfl⟩
    · rintro ⟨p, ⟨hflagged, rfl⟩, rfl⟩
      exact ⟨line, mem_only.2 ⟨hflagged, rfl⟩, rfl⟩

theorem Flags.congr {s : Scan} {reports reports' : String → ℕ → Prop}
    (h : s.Flags document reports) (hiff : ∀ line p, reports' line p ↔ reports line p) :
    s.Flags document reports' := by
  have heq : reports' = reports := funext fun line ↦ funext fun p ↦ propext (hiff line p)
  rwa [heq]

end Flagged

end Scan

namespace LineLength

variable {max : ℕ} {document : Document}

theorem remarks_eq (max : ℕ) (line : String) : remarks max line =
    (Scan.only (max < ·.length) line).map fun line ↦
      ⟨some (UInt32.ofNat max + 1), s!"Line is too long. [{line.length}/{max}]"⟩ := by
  rw [remarks, Scan.only]
  split_ifs <;> rfl

end LineLength

namespace TrailingWhitespace

def blanksFrom (line : String) : ℕ := (Text.dropTrailingBlanks line.toList).length

def EndsBlank (line : String) : Prop := line.toList.getLast?.any Text.isBlank = true

instance : DecidablePred EndsBlank :=
  fun line ↦ inferInstanceAs (Decidable (line.toList.getLast?.any Text.isBlank = true))

variable {line : String}

theorem dropTrailingBlanks_eq (cs : List Char) :
    Text.dropTrailingBlanks cs = cs.rdropWhile Text.isBlank := rfl

theorem dropTrailingBlanks_begins (line : String) :
    Text.dropTrailingBlanks line.toList <+: line.toList :=
  List.rdropWhile_prefix Text.isBlank line.toList

theorem keptSize_eq (line : String) :
    keptSize line = Text.byteOffset line.toList (blanksFrom line) := by
  rw [keptSize, List.prefix_iff_eq_take.1 (dropTrailingBlanks_begins line), Text.utf8ByteSize_take]
  rfl

theorem blanksFrom_eq_iff : blanksFrom line = line.toList.length ↔ ¬EndsBlank line := by
  have hself : Text.dropTrailingBlanks line.toList = line.toList ↔ ¬EndsBlank line := by
    rw [dropTrailingBlanks_eq, List.rdropWhile_eq_self_iff, EndsBlank]
    by_cases hnil : line.toList = []
    · simp [hnil]
    · simp [List.getLast?_eq_some_getLast hnil, hnil]
  rw [← hself]
  exact ⟨(dropTrailingBlanks_begins line).eq_of_length, fun h ↦ congrArg List.length h⟩

theorem blanksFrom_lt (h : EndsBlank line) : blanksFrom line < line.length := by
  have hle : blanksFrom line ≤ line.toList.length := (dropTrailingBlanks_begins line).length_le
  have hne : blanksFrom line ≠ line.toList.length := fun heq ↦ blanksFrom_eq_iff.1 heq h
  rw [← String.length_toList]
  omega

theorem lt_of_mem_only {b : String} (h : b ∈ Scan.only EndsBlank line) :
    blanksFrom b < line.length := by
  obtain ⟨hblank, rfl⟩ := Scan.mem_only.1 h
  exact blanksFrom_lt hblank

theorem keptSize_eq_iff : keptSize line = line.utf8ByteSize ↔ ¬EndsBlank line := by
  rw [keptSize_eq, ← Text.byteOffset_length]
  constructor
  · intro heq h
    have hlt := blanksFrom_lt h
    rw [← String.length_toList] at hlt
    exact (Text.byteOffset_lt hlt le_rfl).ne heq
  · intro h
    rw [blanksFrom_eq_iff.2 h]

theorem isLeast_blanksFrom (line : String) :
    IsLeast {n | ∀ c ∈ line.toList.drop n, Text.isBlank c = true} (blanksFrom line) := by
  constructor
  · have hsplit : Text.dropTrailingBlanks line.toList ++ line.toList.rtakeWhile Text.isBlank =
        line.toList := List.rdropWhile_append_rtakeWhile
    have hdrop := congrArg (List.drop (blanksFrom line)) hsplit
    rw [blanksFrom, List.drop_left] at hdrop
    intro c hc
    rw [blanksFrom, ← hdrop] at hc
    exact List.mem_rtakeWhile_imp hc
  · intro n hn
    by_contra hle
    -- The last character that is kept stands after the `n` first ones, and is not blank.
    have hne : (Text.dropTrailingBlanks line.toList).drop n ≠ [] := by
      rw [ne_eq, List.drop_eq_nil_iff]
      exact hle
    have hmem := List.getLast_mem hne
    rw [List.getLast_drop hne] at hmem
    exact List.rdropWhile_last_not Text.isBlank line.toList _
      (hn _ (((dropTrailingBlanks_begins line).drop n).subset hmem))

theorem remarks_eq (line : String) : remarks line = (Scan.only EndsBlank line).map fun line ↦
    ⟨some (UInt32.ofNat (blanksFrom line) + 1), "Line contains trailing whitespace"⟩ := by
  rw [remarks, Scan.only]
  by_cases h : EndsBlank line
  · have hbefore : Text.charactersBefore? (keptSize line) line.toList = some (blanksFrom line) := by
      have hlt := blanksFrom_lt h
      rw [Text.charactersBefore?_eq_some, String.length_toList]
      exact ⟨hlt.le, (keptSize_eq line).symm⟩
    rw [if_neg (fun heq ↦ keptSize_eq_iff.1 heq h), if_pos h, columnAt?, hbefore]
    rfl
  · rw [if_pos (keptSize_eq_iff.2 h), if_neg h]
    rfl

end TrailingWhitespace

section BuiltIn

theorem setUp_of_build {name description : String} {options : List (String × OptionSpec)}
    {setUp : Settings → Except Error (Document → Scan)} {d : Descriptor}
    (h : Descriptor.build name description options setUp = .ok d) : d.setUp = setUp := by
  rw [Descriptor.build] at h
  split_ifs at h
  obtain ⟨schema, -, h⟩ := Result.bind_eq_ok.1 h
  cases h
  rfl

/-- The scans of the linters that come with the engine. -/
inductive BuiltIn : (Document → Scan) → Prop
  | lineLength (max : ℕ) : BuiltIn (LineLength.scan max)
  | noTodo (keywords : List String) : BuiltIn (NoTodo.scan keywords)
  | trailingWhitespace : BuiltIn TrailingWhitespace.scan

theorem builtIn_of_instantiate {name : String} {d : Descriptor} {settings : Settings} {i : Instance}
    (hd : builtInLinter? name = some (.ok d)) (hi : d.instantiate settings = .ok i) :
    BuiltIn i.scan := by
  obtain ⟨scan, hscan, hi⟩ := Result.bind_eq_ok.1 hi
  cases hi
  rw [builtInLinter?] at hd
  split_ifs at hd
  · rw [setUp_of_build (Option.some.inj hd)] at hscan
    obtain ⟨max, -, hscan⟩ := Result.bind_eq_ok.1 hscan
    cases hscan
    exact .lineLength max
  · rw [setUp_of_build (Option.some.inj hd)] at hscan
    obtain ⟨keywords, -, hscan⟩ := Result.bind_eq_ok.1 hscan
    cases hscan
    exact .noTodo keywords
  · rw [setUp_of_build (Option.some.inj hd)] at hscan
    cases hscan
    exact .trailingWhitespace

variable {document : Document}

theorem inside_of_builtIn {scan : Document → Scan} (h : BuiltIn scan)
    (hcountable : document.Countable) : (scan document).Inside document := by
  cases h with
  | lineLength max =>
    exact Scan.inside_byLine (fun line _ ↦ LineLength.remarks_eq max line)
      (fun _ _ _ hb ↦ (Scan.mem_only.1 hb).1) hcountable
  | noTodo keywords =>
    exact Scan.inside_byLine (fun line _ ↦ NoTodo.remarks_eq keywords line)
      (fun line _ s hs ↦ (NoTodo.mem_spots hs).2.2) hcountable
  | trailingWhitespace =>
    exact Scan.inside_byLine (fun line _ ↦ TrailingWhitespace.remarks_eq line)
      (fun _ _ _ hb ↦ TrailingWhitespace.lt_of_mem_only hb) hcountable

theorem lineLength_flags (max : ℕ) (hcountable : document.Countable) :
    (LineLength.scan max document).Flags document fun line place ↦
      max < line.length ∧ place = max :=
  Scan.flags_byLine (fun line _ ↦ LineLength.remarks_eq max line)
    (fun _ _ _ hb ↦ (Scan.mem_only.1 hb).1) hcountable

theorem trailingWhitespace_flags (hcountable : document.Countable) :
    (TrailingWhitespace.scan document).Flags document fun line place ↦
      TrailingWhitespace.EndsBlank line ∧
      IsLeast {n | ∀ c ∈ line.toList.drop n, Text.isBlank c = true} place := by
  have hflags := Scan.flags_byLine (fun line _ ↦ TrailingWhitespace.remarks_eq line)
    (fun _ _ _ hb ↦ TrailingWhitespace.lt_of_mem_only hb) hcountable
  refine hflags.congr fun line place ↦ and_congr_right fun _ ↦ ?_
  have hleast := TrailingWhitespace.isLeast_blanksFrom line
  exact ⟨fun h ↦ h.unique hleast, fun h ↦ h ▸ hleast⟩

/-- Nothing is reported outside of the document, and no place of it is computed wrong. -/
theorem reports_inside (document : Document) (hcountable : document.Countable) :
    (∀ scan, BuiltIn scan → (scan document).Inside document) ∧
    (∀ name d settings i, builtInLinter? name = some (.ok d) → d.instantiate settings = .ok i →
      ∃ lints, (i.run document).1 = .ok lints ∧ ∀ lint ∈ lints, lint.range.Inside document) ∧
    (∀ index < document.lines.length, Fits index) ∧
    (∀ max, ((LineLength.scan max document).Flags document fun line place ↦
        max < line.length ∧ place = max) ∧
      ∀ line ∈ document.lines, max < line.length → Fits max) ∧
    (∀ keywords, ∀ line ∈ document.lines, ∀ m ∈ NoTodo.markers keywords line,
      HasColumn line m.offset) ∧
    ((TrailingWhitespace.scan document).Flags document fun line place ↦
      TrailingWhitespace.EndsBlank line ∧
      IsLeast {n | ∀ c ∈ line.toList.drop n, Text.isBlank c = true} place) ∧
    ∀ line ∈ document.lines, TrailingWhitespace.keptSize line ≠ line.utf8ByteSize →
      HasColumn line (TrailingWhitespace.keptSize line) := by
  have hlines := hcountable.lines_lt
  refine ⟨fun scan hscan ↦ inside_of_builtIn hscan hcountable, ?_, ?_, ?_, ?_,
    trailingWhitespace_flags hcountable, ?_⟩
  · intro name d settings i hd hi
    obtain ⟨hdone, hinside⟩ := inside_of_builtIn (builtIn_of_instantiate hd hi) hcountable
    refine ⟨_, Instance.run_of_done hdone, ?_⟩
    intro lint hlint
    obtain ⟨f, hf, rfl⟩ := List.mem_map.1 hlint
    exact hinside f hf
  · intro index hindex
    exact .of_lt (by omega)
  · intro max
    refine ⟨lineLength_flags max hcountable, ?_⟩
    intro line hline hmax
    have hlength := hcountable.length_lt line hline
    exact .of_lt (by omega)
  · intro keywords line hline m hm
    obtain ⟨n, hn, hbyte, -⟩ := NoTodo.exists_of_mem_markers hm
    rw [← hbyte]
    exact hasColumn_byteOffset hn (hcountable.length_lt line hline)
  · intro line hline hsize
    have hblank := not_not.1 (mt TrailingWhitespace.keptSize_eq_iff.2 hsize)
    rw [TrailingWhitespace.keptSize_eq]
    exact hasColumn_byteOffset (TrailingWhitespace.blanksFrom_lt hblank)
      (hcountable.length_lt line hline)

def blanksAtEnd : Document := ⟨"é! \t\nTODO", ["é! \t", "TODO"], none, none⟩

theorem reports_inside_blanksAtEnd :
    blanksAtEnd.Countable ∧
    (NoTodo.scan ["TODO", "é"] blanksAtEnd).Inside blanksAtEnd ∧
    (∃ f ∈ (LineLength.scan 3 blanksAtEnd).findings, f.IsAt 1 4) ∧
    (∃ f ∈ (TrailingWhitespace.scan blanksAtEnd).findings, f.IsAt 1 3) ∧
    ∃ d i lints, builtInLinter? "LineLength" = some (.ok d) ∧
      d.instantiate ⟨"LineLength", true, .error, none, [], [("max", .int 3)]⟩ = .ok i ∧
      (i.run blanksAtEnd).1 = .ok lints ∧ ∀ lint ∈ lints, lint.range.Inside blanksAtEnd := by
  have hcountable : blanksAtEnd.Countable := ⟨by decide, by decide⟩
  obtain ⟨hinside, hinstance, -, hlength, -, hblank, -⟩ := reports_inside blanksAtEnd hcountable
  have hleast := TrailingWhitespace.isLeast_blanksFrom "é! \t"
  have hplace : TrailingWhitespace.blanksFrom "é! \t" = 2 := by decide
  rw [hplace] at hleast
  refine ⟨hcountable, hinside _ (.noTodo _), ?_, ?_, ?_⟩
  · exact ((hlength 3).1.reported 0 "é! \t" rfl 4).2 ⟨3, ⟨by decide, rfl⟩, rfl⟩
  · exact (hblank.reported 0 "é! \t" rfl 3).2 ⟨2, ⟨by decide, hleast⟩, rfl⟩
  · obtain ⟨lints, hrun, hlints⟩ := hinstance "LineLength" _
      ⟨"LineLength", true, .error, none, [], [("max", .int 3)]⟩ _ rfl rfl
    exact ⟨_, _, lints, rfl, rfl, hrun, hlints⟩

end BuiltIn

end LintEngine
