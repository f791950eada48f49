import LintEngine.Proofs.AbsoluteNames
import LintEngine.Proofs.Grouping
import LintEngine.Report.Checkstyle

namespace LintEngine.Checkstyle

def references : List (String × Char) :=
  [("amp", '&'), ("lt", '<'), ("gt", '>'), ("quot", '"'), ("apos", '\''), ("#10", '\n')]

/-- Resolves the references in a value. -/
def decode : List Char → List Char
  | [] => []
  | c :: rest =>
    if c = '&' then
      match references.lookup (.ofList (rest.takeWhile (· ≠ ';'))) with
      | some d => d :: decode ((rest.dropWhile (· ≠ ';')).drop 1)
      | none => c :: decode rest
    else c :: decode rest
termination_by text => text.length
decreasing_by
  · have hdrop := (List.dropWhile_sublist (l := rest) (· ≠ ';')).length_le
    rw [List.length_drop, List.length_cons]
    omega
  · simp
  · simp

def tags : List Char → List (List Char)
  | [] => []
  | c :: rest => if c = '<' then rest.takeWhile (· ≠ '>') :: tags rest else tags rest

/-- A tag with its attributes. The name of a tag that ends an element starts with a slash. -/
structure Tag where
  name : String
  attributes : List (String × String)
deriving DecidableEq, Repr

namespace Tag

def key (text : List Char) : String :=
  .ofList (((text.dropWhile (· ≠ ' ')).drop 1).takeWhile (· ≠ '='))

def attributesOf : List (List Char) → List (String × String)
  | before :: value :: rest => (key before, .ofList (decode value)) :: attributesOf rest
  | _ => []

def ofText (text : List Char) : Tag :=
  ⟨.ofList (text.takeWhile (· ≠ ' ')), attributesOf (text.splitOn '"')⟩

def get? (tag : Tag) (key : String) : Option String :=
  tag.attributes.lookup key

def number? (tag : Tag) (key : String) : Option ℕ :=
  (tag.get? key).bind fun text ↦
    if text.toList ≠ [] ∧ text.toList.all Char.isDigit then some (Nat.ofDigitChars 10 text.toList 0)
    else none

end Tag

/-- What a document says about a lint. -/
structure ErrorEntry where
  source : String
  line : ℕ
  column : ℕ
  severity : String
  message : String
deriving DecidableEq, Repr

/-- What a document says about a file. -/
structure FileEntry where
  name : String
  errors : List ErrorEntry
deriving DecidableEq, Repr

def Tag.error? (tag : Tag) : Option ErrorEntry := do
  let source ← tag.get? "source"
  let line ← tag.number? "line"
  let column ← tag.number? "column"
  let severity ← tag.get? "severity"
  let message ← tag.get? "message"
  some ⟨source, line, column, severity, message⟩

mutual
/-- The files from here to the end of the document. -/
def files : List Tag → Option (List FileEntry)
  | [] => none
  | tag :: rest =>
    if tag.name = "file" then do
      let name ← tag.get? "name"
      let (errors, more) ← inFile rest
      some (⟨name, errors⟩ :: more)
    else if tag.name = "/checkstyle" ∧ rest = [] then some []
    else none
/-- The errors from here to the end of a file, and the files that follow. -/
def inFile : List Tag → Option (List ErrorEntry × List FileEntry)
  | [] => none
  | tag :: rest =>
    if tag.name = "error" then do
      let error ← tag.error?
      let (errors, more) ← inFile rest
      some (error :: errors, more)
    else if tag.name = "/file" then do
      let more ← files rest
      some ([], more)
    else none
end

def read (document : String) : Option (List FileEntry) :=
  match (tags document.toList).map Tag.ofText with
  | declaration :: root :: rest =>
    if declaration.name = "?xml" ∧ root.name = "checkstyle" then files rest else none
  | _ => none

section Escaping

theorem decode_cons {c : Char} (h : c ≠ '&') (rest : List Char) :
    decode (c :: rest) = c :: decode rest := by
  rw [decode, if_neg h]

theorem decode_reference {name : List Char} {c : Char} (hname : ';' ∉ name)
    (hc : references.lookup (.ofList name) = some c) (rest : List Char) :
    decode ('&' :: (name ++ ';' :: rest)) = c :: decode rest := by
  have hne : ∀ d ∈ name, (decide (d ≠ ';')) = true := fun d hd ↦ by
    simpa using ne_of_mem_of_not_mem hd hname
  have htake : (name ++ ';' :: rest).takeWhile (· ≠ ';') = name := by
    rw [List.takeWhile_append_of_pos hne]
    simp
  have hdrop : (name ++ ';' :: rest).dropWhile (· ≠ ';') = ';' :: rest := by
    rw [List.dropWhile_append_of_pos hne]
    simp
  rw [decode, if_pos rfl, htake, hc, hdrop]
  rfl

theorem escapeChar_cases (c : Char) :
    (∃ reference ∈ references, reference.2 = c ∧
      (escapeChar c).toList = '&' :: (reference.1.toList ++ [';'])) ∨
    ((∀ reference ∈ references, reference.2 ≠ c) ∧ (escapeChar c).toList = [c]) := by
  by_cases h : ∃ reference ∈ references, reference.2 = c
  · obtain ⟨reference, hmem, rfl⟩ := h
    refine .inl ⟨reference, hmem, rfl, ?_⟩
    revert reference
    decide
  · have hne : ∀ reference ∈ references, reference.2 ≠ c := fun reference hmem hc ↦
      h ⟨reference, hmem, hc⟩
    have hself : escapeChar c = c.toString := by
      rw [escapeChar, if_neg (hne ("amp", '&') (by decide)).symm,
        if_neg (hne ("lt", '<') (by decide)).symm, if_neg (hne ("gt", '>') (by decide)).symm,
        if_neg (hne ("quot", '"') (by decide)).symm, if_neg (hne ("apos", '\'') (by decide)).symm,
        if_neg (hne ("#10", '\n') (by decide)).symm]
    exact .inr ⟨hne, by rw [hself, Char.toString_eq_singleton, String.toList_singleton]⟩

theorem decode_escapeChar (c : Char) (rest : List Char) :
    decode ((escapeChar c).toList ++ rest) = c :: decode rest := by
  have hreferences : ∀ reference ∈ references, ';' ∉ reference.1.toList ∧
      references.lookup (.ofList reference.1.toList) = some reference.2 := by decide
  rcases escapeChar_cases c with ⟨reference, hmem, rfl, hc⟩ | ⟨hne, hc⟩
  · obtain ⟨hname, hlookup⟩ := hreferences reference hmem
    rw [hc, List.cons_append, List.append_assoc, List.singleton_append,
      decode_reference hname hlookup]
  · rw [hc, List.singleton_append, decode_cons (hne ("amp", '&') (by decide)).symm]

theorem toList_escape (text : String) :
    (escape text).toList = text.toList.flatMap fun c ↦ (escapeChar c).toList := by
  rw [escape, String.toList_join, List.flatMap_map]

theorem decode_escape (text : String) : decode (escape text).toList = text.toList := by
  rw [toList_escape]
  induction text.toList with
  | nil => rw [List.flatMap_nil, decode]
  | cons c rest ih => rw [List.flatMap_cons, decode_escapeChar, ih]

def Unmarked (text : List Char) : Prop := ∀ c ∈ text, c ≠ '<' ∧ c ≠ '>' ∧ c ≠ '"'

instance : DecidablePred Unmarked := fun text ↦
  decidable_of_iff (text.all fun c ↦ c ≠ '<' ∧ c ≠ '>' ∧ c ≠ '"') (by simp [Unmarked])

theorem unmarked_escapeChar (c : Char) : Unmarked (escapeChar c).toList := by
  have hreferences : ∀ reference ∈ references,
      Unmarked ('&' :: (reference.1.toList ++ [';'])) := by decide
  rcases escapeChar_cases c with ⟨reference, hmem, -, hc⟩ | ⟨hne, hc⟩
  · rw [hc]
    exact hreferences reference hmem
  · rw [hc]
    intro d hd
    rw [List.mem_singleton.1 hd]
    exact ⟨(hne ("lt", '<') (by decide)).symm, (hne ("gt", '>') (by decide)).symm,
      (hne ("quot", '"') (by decide)).symm⟩

theorem unmarked_escape (text : String) : Unmarked (escape text).toList := by
  rw [toList_escape]
  intro c hc
  obtain ⟨d, -, hd⟩ := List.mem_flatMap.1 hc
  exact unmarked_escapeChar d c hd

theorem toList_number (n : UInt32) : (toString n).toList = Nat.toDigits 10 n.toNat := by
  have htext : toString n = n.toNat.repr := rfl
  rw [htext, Nat.repr_eq_ofList_toDigits, String.toList_ofList]

theorem isDigit_number (n : UInt32) : ∀ c ∈ (toString n).toList, c.isDigit = true := by
  rw [toList_number]
  exact fun c hc ↦ Nat.isDigit_of_mem_toDigits (by decide) (by decide) hc

theorem decode_number (n : UInt32) : decode (toString n).toList = (toString n).toList := by
  have hdigit := isDigit_number n
  generalize (toString n).toList = digits at hdigit ⊢
  induction digits with
  | nil => rw [decode]
  | cons c rest ih =>
    rw [List.forall_mem_cons] at hdigit
    have hc : c ≠ '&' := by
      rintro rfl
      exact absurd hdigit.1 (by decide)
    rw [decode_cons hc, ih hdigit.2]

theorem unmarked_number (n : UInt32) : Unmarked (toString n).toList := by
  intro c hc
  have hdigit := isDigit_number n c hc
  refine ⟨?_, ?_, ?_⟩ <;> rintro rfl <;> exact absurd hdigit (by decide)

end Escaping

section Tags

variable {before body rest : List Char}

theorem tags_append (h : '<' ∉ before) (rest : List Char) : tags (before ++ rest) = tags rest := by
  induction before with
  | nil => rfl
  | cons c before ih =>
    rw [List.mem_cons, not_or] at h
    rw [List.cons_append, tags, if_neg (Ne.symm h.1), ih h.2]

theorem tags_element (hlt : '<' ∉ body) (hgt : '>' ∉ body) (rest : List Char) :
    tags ('<' :: (body ++ '>' :: rest)) = body :: tags rest := by
  have htake : (body ++ '>' :: rest).takeWhile (· ≠ '>') = body := by
    rw [List.takeWhile_append_of_pos fun c hc ↦ by simpa using ne_of_mem_of_not_mem hc hgt]
    simp
  have hrest : tags (body ++ '>' :: rest) = tags rest := by
    rw [tags_append hlt, tags, if_neg (by decide)]
  rw [tags, if_pos rfl, htake, hrest]

def errorParts (lint : Lint) : List (List Char) :=
  ["error source=".toList, (escape (lint.linter.getD "")).toList,
    " line=".toList, (toString lint.range.first.line).toList,
    " column=".toList, (toString lint.range.first.column).toList,
    " severity=".toList, (escape lint.severity.name).toList,
    " message=".toList, (escape lint.message).toList, " /".toList]

def fileParts (name : String) : List (List Char) :=
  ["file name=".toList, (escape name).toList, []]

theorem unmarked_errorParts (lint : Lint) : ∀ part ∈ errorParts lint, Unmarked part := by
  simp only [errorParts, List.forall_mem_cons, unmarked_escape, unmarked_number, true_and]
  decide

theorem unmarked_fileParts (name : String) : ∀ part ∈ fileParts name, Unmarked part := by
  simp only [fileParts, List.forall_mem_cons, unmarked_escape, true_and]
  decide

def joined (parts : List (List Char)) : List Char := ['"'].intercalate parts

theorem joined_singleton (part : List Char) : joined [part] = part := by
  simp [joined, List.intercalate]

theorem joined_cons_cons (part next : List Char) (parts : List (List Char)) :
    joined (part :: next :: parts) = part ++ '"' :: joined (next :: parts) := by
  simp [joined, List.intercalate]

theorem splitOn_joined {parts : List (List Char)} (h : ∀ part ∈ parts, Unmarked part)
    (hne : parts ≠ []) : (joined parts).splitOn '"' = parts :=
  List.splitOn_intercalate '"' (fun part hpart hquote ↦ (h part hpart '"' hquote).2.2 rfl) hne

theorem mem_joined {parts : List (List Char)} {c : Char} (h : c ∈ joined parts) :
    c = '"' ∨ ∃ part ∈ parts, c ∈ part := by
  match parts with
  | [] => simp [joined, List.intercalate] at h
  | [part] =>
    rw [joined_singleton] at h
    exact .inr ⟨part, List.mem_cons_self, h⟩
  | part :: next :: rest =>
    rw [joined_cons_cons, List.mem_append, List.mem_cons] at h
    rcases h with h | h | h
    · exact .inr ⟨part, List.mem_cons_self, h⟩
    · exact .inl h
    · rcases mem_joined h with h | ⟨other, hother, h⟩
      · exact .inl h
      · exact .inr ⟨other, List.mem_cons_of_mem part hother, h⟩

theorem tags_joined {parts : List (List Char)} (h : ∀ part ∈ parts, Unmarked part)
    (rest : List Char) :
    tags ('<' :: (joined parts ++ '>' :: rest)) = joined parts :: tags rest := by
  refine tags_element (fun hlt ↦ ?_) (fun hgt ↦ ?_) rest
  · rcases mem_joined hlt with hquote | ⟨part, hpart, hc⟩
    · exact absurd hquote (by decide)
    · exact (h part hpart _ hc).1 rfl
  · rcases mem_joined hgt with hquote | ⟨part, hpart, hc⟩
    · exact absurd hquote (by decide)
    · exact (h part hpart _ hc).2.1 rfl

theorem toList_errorElement (lint : Lint) : (errorElement lint).toList =
    "    ".toList ++ '<' :: (joined (errorParts lint) ++ '>' :: ['\n']) := by
  unfold errorElement errorParts
  dsimp only [toString]
  simp only [String.toList_append, String.reduceToList, joined_cons_cons, joined_singleton,
    List.append_assoc, List.cons_append, List.nil_append]

theorem toList_fileElement (workingDirectory : Path) (group : Path × List Lint) :
    (fileElement workingDirectory group).toList =
      "  ".toList ++ '<' :: (joined (fileParts (absolute workingDirectory group.1)) ++ '>' ::
        ('\n' :: (group.2.flatMap fun lint ↦ (errorElement lint).toList) ++
          "  </file>\n".toList)) := by
  unfold fileElement fileParts
  simp only [String.toList_append, String.toList_join, List.flatMap_map, String.reduceToList,
    joined_cons_cons, joined_singleton, List.append_assoc, List.cons_append, List.nil_append]

theorem tags_errors (lints : List Lint) (rest : List Char) :
    tags ((lints.flatMap fun lint ↦ (errorElement lint).toList) ++ rest) =
      lints.map (fun lint ↦ joined (errorParts lint)) ++ tags rest := by
  induction lints with
  | nil => rfl
  | cons lint lints ih =>
    rw [List.flatMap_cons, toList_errorElement, List.append_assoc, List.append_assoc,
      tags_append (by decide), List.cons_append, List.append_assoc, List.cons_append,
      tags_joined (unmarked_errorParts lint), List.cons_append, List.nil_append, tags,
      if_neg (by decide), ih, List.map_cons, List.cons_append]

def fileTags (workingDirectory : Path) (group : Path × List Lint) : List (List Char) :=
  joined (fileParts (absolute workingDirectory group.1)) ::
    group.2.map (fun lint ↦ joined (errorParts lint)) ++ ["/file".toList]

theorem tags_file (workingDirectory : Path) (group : Path × List Lint) (rest : List Char) :
    tags ((fileElement workingDirectory group).toList ++ rest) =
      fileTags workingDirectory group ++ tags rest := by
  have hend : tags ("  </file>\n".toList ++ rest) = "/file".toList :: tags rest := by
    have hsplit : "  </file>\n".toList ++ rest =
        "  ".toList ++ '<' :: ("/file".toList ++ '>' :: ('\n' :: rest)) := by simp
    rw [hsplit, tags_append (by decide), tags_element (by decide) (by decide), tags,
      if_neg (by decide)]
  rw [toList_fileElement, List.append_assoc, tags_append (by decide), List.cons_append,
    List.append_assoc, List.cons_append, tags_joined (unmarked_fileParts _), List.cons_append,
    List.cons_append, tags, if_neg (by decide), List.append_assoc, tags_errors, hend, fileTags]
  simp only [List.cons_append, List.append_assoc, List.nil_append]

theorem tags_files (workingDirectory : Path) (groups : List (Path × List Lint))
    (rest : List Char) :
    tags ((groups.flatMap fun group ↦ (fileElement workingDirectory group).toList) ++ rest) =
      groups.flatMap (fileTags workingDirectory) ++ tags rest := by
  induction groups with
  | nil => rfl
  | cons group groups ih =>
    rw [List.flatMap_cons, List.append_assoc, tags_file, ih, List.flatMap_cons, List.append_assoc]

def declaration : List Char := "?xml version=\"1.0\" encoding=\"utf-8\"?".toList

def root : List Char := "checkstyle version=\"1.5.6\"".toList

theorem tags_document (workingDirectory : Path) (r : Report) :
    tags (document workingDirectory r).toList =
      declaration :: root ::
        (r.groups.flatMap (fileTags workingDirectory) ++ ["/checkstyle".toList]) := by
  have hdocument : (document workingDirectory r).toList =
      '<' :: (declaration ++ '>' :: ('\n' :: '<' :: (root ++ '>' :: ('\n' ::
        ((r.groups.flatMap fun group ↦ (fileElement workingDirectory group).toList) ++
          '<' :: ("/checkstyle".toList ++ '>' :: ['\n'])))))) := by
    unfold document declaration root
    simp only [String.toList_append, String.toList_join, List.flatMap_map, String.reduceToList,
      List.cons_append, List.nil_append]
  rw [hdocument, tags_element (by decide) (by decide), tags, if_neg (by decide),
    tags_element (by decide) (by decide), tags, if_neg (by decide), tags_files,
    tags_element (by decide) (by decide)]
  rfl

end Tags

section Reading

def errorTag (lint : Lint) : Tag :=
  ⟨"error", [("source", lint.linter.getD ""), ("line", toString lint.range.first.line),
    ("column", toString lint.range.first.column), ("severity", lint.severity.name),
    ("message", lint.message)]⟩

theorem ofText_error (lint : Lint) : Tag.ofText (joined (errorParts lint)) = errorTag lint := by
  have hname : (joined (errorParts lint)).takeWhile (· ≠ ' ') = "error".toList := by
    unfold errorParts
    rw [joined_cons_cons]
    simp
  have hcut := splitOn_joined (unmarked_errorParts lint) (by simp [errorParts])
  rw [Tag.ofText, hname, hcut, errorParts, errorTag]
  simp only [Tag.attributesOf, decode_escape, decode_number, String.ofList_toList]
  rfl

theorem ofText_file (name : String) :
    Tag.ofText (joined (fileParts name)) = ⟨"file", [("name", name)]⟩ := by
  have hname : (joined (fileParts name)).takeWhile (· ≠ ' ') = "file".toList := by
    unfold fileParts
    rw [joined_cons_cons]
    simp
  have hcut := splitOn_joined (unmarked_fileParts name) (by simp [fileParts])
  rw [Tag.ofText, hname, hcut, fileParts]
  simp only [Tag.attributesOf, decode_escape, String.ofList_toList]
  rfl

def errorEntry (lint : Lint) : ErrorEntry :=
  ⟨lint.linter.getD "", lint.range.first.line.toNat, lint.range.first.column.toNat,
    lint.severity.name, lint.message⟩

theorem number?_eq {tag : Tag} {key : String} {n : UInt32}
    (h : tag.get? key = some (toString n)) : tag.number? key = some n.toNat := by
  have hdigits : (toString n).toList ≠ [] ∧ (toString n).toList.all Char.isDigit = true := by
    refine ⟨?_, List.all_eq_true.2 (isDigit_number n)⟩
    rw [toList_number]
    exact Nat.toDigits_ne_nil
  rw [Tag.number?, h, Option.bind_some, if_pos hdigits, toList_number,
    Nat.ofDigitChars_toDigits (by decide) (by decide)]

theorem error?_errorTag (lint : Lint) : (errorTag lint).error? = some (errorEntry lint) := by
  have hline : (errorTag lint).number? "line" = some lint.range.first.line.toNat := number?_eq rfl
  have hcolumn : (errorTag lint).number? "column" = some lint.range.first.column.toNat :=
    number?_eq rfl
  unfold Tag.error?
  rw [hline, hcolumn]
  rfl

theorem inFile_errors (lints : List Lint) (rest : List Tag) :
    inFile (lints.map errorTag ++ ⟨"/file", []⟩ :: rest) =
      (files rest).map fun more ↦ (lints.map errorEntry, more) := by
  induction lints with
  | nil =>
    rw [List.map_nil, List.nil_append, inFile, if_neg (by decide), if_pos rfl]
    cases files rest <;> rfl
  | cons lint lints ih =>
    have hname : (errorTag lint).name = "error" := rfl
    rw [List.map_cons, List.cons_append, inFile, if_pos hname, error?_errorTag, ih]
    cases files rest <;> rfl

def fileEntry (workingDirectory : Path) (group : Path × List Lint) : FileEntry :=
  ⟨workingDirectory.absoluteName group.1, group.2.map errorEntry⟩

theorem files_fileTags (workingDirectory : Path) (groups : List (Path × List Lint)) :
    files ((groups.flatMap (fileTags workingDirectory) ++ ["/checkstyle".toList]).map Tag.ofText) =
      some (groups.map (fileEntry workingDirectory)) := by
  induction groups with
  | nil => rfl
  | cons group groups ih =>
    have htags : (fileTags workingDirectory group).map Tag.ofText =
        ⟨"file", [("name", workingDirectory.absoluteName group.1)]⟩ ::
          (group.2.map errorTag ++ [⟨"/file", []⟩]) := by
      have hend : Tag.ofText "/file".toList = ⟨"/file", []⟩ := by decide
      rw [fileTags, List.cons_append, List.map_cons, List.map_append, List.map_map, ofText_file,
        List.map_singleton, hend, absolute, Path.absolute_eq]
      simp only [Function.comp_def, ofText_error]
    rw [List.flatMap_cons, List.append_assoc, List.map_append, htags, List.cons_append, files,
      if_pos rfl, List.append_assoc, List.singleton_append, inFile_errors, ih]
    rfl

theorem read_document (workingDirectory : Path) (r : Report) :
    read (document workingDirectory r) = some (r.groups.map (fileEntry workingDirectory)) := by
  have hdeclaration : (Tag.ofText declaration).name = "?xml" := by decide
  have hroot : (Tag.ofText root).name = "checkstyle" := by decide
  rw [read, tags_document, List.map_cons, List.map_cons]
  dsimp only
  rw [if_pos ⟨hdeclaration, hroot⟩, files_fileTags]

end Reading

end LintEngine.Checkstyle
