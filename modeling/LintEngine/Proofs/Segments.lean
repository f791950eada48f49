import LintEngine.FileTree.Basic
import Mathlib.Data.List.DropRight

namespace LintEngine

namespace Path

theorem splitSlashes_ne_nil (l : List Char) : splitSlashes l ≠ [] := by
  cases l with
  | nil => simp [splitSlashes]
  | cons c rest =>
    rw [splitSlashes]
    split
    · simp
    · split <;> simp

theorem splitSlashes_append (a b : List Char) :
    splitSlashes (a ++ '/' :: b) = splitSlashes a ++ splitSlashes b := by
  induction a with
  | nil => simp [splitSlashes]
  | cons c rest ih =>
    rw [List.cons_append, splitSlashes, splitSlashes, ih]
    by_cases hc : c = '/'
    · simp [hc]
    · rw [if_neg hc, if_neg hc]
      cases hr : splitSlashes rest with
      | nil => exact absurd hr (splitSlashes_ne_nil rest)
      | cons part parts => rfl

theorem splitSlashes_of_not_mem {a : List Char} (h : '/' ∉ a) : splitSlashes a = [a] := by
  induction a with
  | nil => rfl
  | cons c rest ih =>
    rw [List.mem_cons, not_or] at h
    have hc : ¬ c = '/' := fun he ↦ h.1 he.symm
    rw [splitSlashes, if_neg hc, ih h.2]

theorem not_mem_of_mem_splitSlashes {l part : List Char} (h : part ∈ splitSlashes l) :
    '/' ∉ part := by
  induction l generalizing part with
  | nil => simp_all [splitSlashes]
  | cons c rest ih =>
    rw [splitSlashes] at h
    by_cases hc : c = '/'
    · rw [if_pos hc, List.mem_cons] at h
      rcases h with rfl | h
      · simp
      · exact ih h
    · rw [if_neg hc] at h
      cases hr : splitSlashes rest with
      | nil => exact absurd hr (splitSlashes_ne_nil rest)
      | cons first parts =>
        rw [hr] at h ih
        rcases List.mem_cons.1 h with rfl | h
        · have hf := ih List.mem_cons_self
          simp [hf, Ne.symm hc]
        · exact ih (List.mem_cons_of_mem _ h)

theorem splitSlashes_intercalate {parts : List (List Char)} (hne : parts ≠ [])
    (h : ∀ part ∈ parts, '/' ∉ part) : splitSlashes (['/'].intercalate parts) = parts := by
  induction parts with
  | nil => exact absurd rfl hne
  | cons part rest ih =>
    have hpart := splitSlashes_of_not_mem (h part List.mem_cons_self)
    cases rest with
    | nil => rw [List.intercalate_singleton, hpart]
    | cons next rest =>
      have hrest := ih (by simp) (fun p hp ↦ h p (List.mem_cons_of_mem _ hp))
      rw [List.intercalate_cons_cons, List.append_assoc, List.singleton_append, splitSlashes_append,
        hpart, hrest]
      rfl

end Path

namespace FileTree

open LintEngine.Path

theorem segments_ne_nil (p : Path) : segments p ≠ [] := by
  simp [segments, splitSlashes_ne_nil]

theorem not_mem_of_mem_segments {p : Path} {name : String} (h : name ∈ segments p) :
    '/' ∉ name.toList := by
  obtain ⟨part, hp, rfl⟩ := List.mem_map.1 h
  simpa using not_mem_of_mem_splitSlashes hp

theorem segments_append_slash (a b : String) :
    segments ⟨a ++ "/" ++ b⟩ = segments ⟨a⟩ ++ segments ⟨b⟩ := by
  have h : (a ++ "/" ++ b).toList = a.toList ++ '/' :: b.toList := by simp
  simp [segments, h, splitSlashes_append]

theorem segments_intercalate {names : List String} (hne : names ≠ [])
    (h : ∀ name ∈ names, '/' ∉ name.toList) : segments ⟨"/".intercalate names⟩ = names := by
  have hs : (String.toList "/") = ['/'] := rfl
  have hp : splitSlashes (['/'].intercalate (names.map String.toList)) = names.map String.toList :=
    splitSlashes_intercalate (by simpa using hne) (by simpa using h)
  simp [segments, String.toList_intercalate, hs, hp]

theorem isAbsolute_iff {p : Path} :
    p.isAbsolute = true ↔ ∃ rest, rest ≠ [] ∧ segments p = "" :: rest := by
  rw [Path.isAbsolute, beq_iff_eq, segments]
  cases p.text.toList with
  | nil => simp [splitSlashes]
  | cons c text =>
    rw [splitSlashes]
    by_cases hc : c = '/'
    · simp [hc, splitSlashes_ne_nil]
    · cases ht : splitSlashes text with
      | nil => exact absurd ht (splitSlashes_ne_nil text)
      | cons part parts => simp [hc, ← String.toList_inj]

theorem isAbsolute_iff_of_cons {p : Path} {first : String} {rest : List String}
    (h : segments p = first :: rest) (hne : rest ≠ []) : p.isAbsolute = true ↔ first = "" := by
  rw [isAbsolute_iff, h]
  simp [hne]

end FileTree

namespace Path

open FileTree

@[simp]
theorem text_ofFirst (s : String) (more : Bool) : (Piece.ofFirst s more).text = s := by
  unfold Piece.ofFirst
  split
  · rfl
  · split
    · rfl
    · rfl

@[simp]
theorem text_ofText (s : String) : (Piece.ofText s).text = s := rfl

theorem pieces_of_segments {p : Path} {first : String} {rest : List String}
    (h : segments p = first :: rest) :
    p.pieces = Piece.ofFirst first (!rest.isEmpty) :: rest.map Piece.ofText := by
  have hs : (splitSlashes p.text.toList).map String.ofList = first :: rest := h
  rw [pieces, hs]

def skips (s : String) : Bool := s = "" || s = "."

/-- A name that an entry of a directory can have. -/
structure IsName (name : String) : Prop where
  not_skips : skips name = false
  not_parent : name ≠ ".."
  no_slash : '/' ∉ name.toList

theorem ofText_of_skips {s : String} (h : skips s = true) : (Piece.ofText s).component = none := by
  have h' : s = "" ∨ s = "." := by simpa [skips] using h
  simp [Piece.ofText, h']

theorem ofText_of_not_skips {s : String} (h : skips s = false) :
    (Piece.ofText s).component.isSome = true := by
  have h' : ¬ (s = "" ∨ s = ".") := by simpa [skips] using h
  simp only [Piece.ofText, Bool.or_eq_true, decide_eq_true_eq, h', if_false]
  split <;> rfl

theorem IsName.ofText {name : String} (h : IsName name) :
    Piece.ofText name = ⟨name, some (.name name)⟩ := by
  have h' : ¬ (name = "" ∨ name = ".") := by simpa [skips] using h.not_skips
  simp [Piece.ofText, h', h.not_parent]

theorem IsName.ofFirst {name : String} (h : IsName name) (more : Bool) :
    Piece.ofFirst name more = ⟨name, some (.name name)⟩ := by
  have h' : ¬ (name = "" ∨ name = ".") := by simpa [skips] using h.not_skips
  rw [not_or] at h'
  simp [Piece.ofFirst, h'.1, h'.2, h.ofText]

theorem ofFirst_isSome (s : String) : (Piece.ofFirst s true).component.isSome = true := by
  by_cases h₁ : s = ""
  · simp [Piece.ofFirst, h₁]
  · by_cases h₂ : s = "."
    · simp [Piece.ofFirst, h₂]
    · simp only [Piece.ofFirst, h₁, h₂, decide_false, Bool.false_and, Bool.false_eq_true, if_false]
      exact ofText_of_not_skips (by simp [skips, h₁, h₂])

theorem trimEnd_pieces (first : String) (rest : List String) :
    trimEnd (Piece.ofFirst first true :: rest.map Piece.ofText) =
      Piece.ofFirst first true :: (rest.rdropWhile skips).map Piece.ofText := by
  have htrim (l : List Piece) : trimEnd l = l.rdropWhile (·.component.isNone) := rfl
  induction rest using List.reverseRecOn with
  | nil =>
    have h : (Piece.ofFirst first true).component.isNone = false := by
      simpa using ofFirst_isSome first
    simp [htrim, List.rdropWhile_singleton, h]
  | append_singleton rest s ih =>
    rw [htrim] at ih ⊢
    rw [List.map_append, ← List.cons_append, List.map_singleton]
    by_cases hs : skips s = true
    · rw [List.rdropWhile_concat_pos _ _ _ (by simp [ofText_of_skips hs]), ih,
        List.rdropWhile_concat_pos _ _ _ hs]
    · rw [Bool.not_eq_true] at hs
      have hsome : (Piece.ofText s).component ≠ none :=
        Option.isSome_iff_ne_none.1 (ofText_of_not_skips hs)
      rw [List.rdropWhile_concat_neg _ _ _ (by simpa using hsome),
        List.rdropWhile_concat_neg _ _ _ (by simpa using hs), List.map_append]
      rfl

theorem ofPieces_eq {first : String} {rest : List String} :
    ofPieces (Piece.ofFirst first true :: rest.map Piece.ofText) =
      if first = "" ∧ rest = [] then ⟨"/"⟩ else ⟨"/".intercalate (first :: rest)⟩ := by
  have htexts : (Piece.ofFirst first true :: rest.map Piece.ofText).map (·.text) =
      first :: rest := by
    simp [Function.comp_def]
  by_cases h : first = "" ∧ rest = []
  · obtain ⟨rfl, rfl⟩ := h
    rfl
  · rw [if_neg h, ← htexts]
    unfold ofPieces
    split
    · next s hs =>
      rw [List.cons.injEq, List.map_eq_nil_iff] at hs
      have hc : (Piece.ofFirst first true).component = some .root := by rw [hs.1]
      refine absurd ⟨?_, hs.2⟩ h
      by_contra hne
      simp only [Piece.ofFirst, hne, decide_false, Bool.false_and, Bool.false_eq_true, if_false]
        at hc
      split at hc
      · simp at hc
      · unfold Piece.ofText at hc
        split at hc
        · simp at hc
        · split at hc <;> simp at hc
    · rfl

theorem endsWith_slash_iff {s : String} : s.endsWith "/" = true ↔ ['/'] <:+ s.toList := by
  rw [String.endsWith_eq_endsWith_toSlice, String.Slice.endsWith_string_iff, String.copy_toSlice]
  rfl

theorem endsWith_intercalate (names : List String) {last : String} (hne : last ≠ "")
    (hslash : '/' ∉ last.toList) :
    "/".intercalate (names ++ [last]) ≠ "" ∧
      ("/".intercalate (names ++ [last])).endsWith "/" = false := by
  have hsplit : ∃ front, ("/".intercalate (names ++ [last])).toList = front ++ last.toList := by
    cases names with
    | nil => exact ⟨[], by simp⟩
    | cons name names =>
      rw [String.intercalate_append_of_ne_nil (by simp) (by simp), String.intercalate_singleton,
        String.toList_append]
      exact ⟨_, rfl⟩
  obtain ⟨front, hfront⟩ := hsplit
  have hlast : last.toList ≠ [] := fun h ↦ hne (by simpa using h)
  constructor
  · intro h
    rw [h] at hfront
    simp_all
  · rw [← Bool.not_eq_true, endsWith_slash_iff, hfront]
    rintro ⟨before, hb⟩
    refine hslash ?_
    have hg := congrArg List.getLast? hb
    rw [List.getLast?_append_of_ne_nil _ hlast, List.getLast?_append_of_ne_nil _ (by simp)] at hg
    exact List.mem_of_getLast? (hg.symm.trans rfl)

theorem segments_join {first : String} {rest : List String} {e : Path}
    (hslash : ∀ s ∈ first :: rest, '/' ∉ s.toList)
    (hlast : ∀ s ∈ rest.getLast?, s ≠ "") (he : e.isAbsolute = false) :
    segments ((ofPieces (Piece.ofFirst first true :: rest.map Piece.ofText)).join e) =
      first :: rest ++ segments e := by
  rw [ofPieces_eq]
  by_cases h : first = "" ∧ rest = []
  · obtain ⟨rfl, rfl⟩ := h
    have hend : (String.endsWith "/" "/") = true :=
      endsWith_slash_iff.2 (List.suffix_refl _)
    simp only [and_self, if_true, join, he, Bool.false_eq_true, if_false, hend, Bool.or_true]
    have htext : "/" ++ e.text = "" ++ "/" ++ e.text := by simp
    rw [htext, segments_append_slash]
    rfl
  · have hsplit : ∃ names last, first :: rest = names ++ [last] ∧ last ≠ "" := by
      cases hr : rest using List.reverseRecOn with
      | nil => exact ⟨[], first, rfl, fun hf ↦ h ⟨hf, hr⟩⟩
      | append_singleton names last =>
        exact ⟨first :: names, last, rfl, hlast last (by simp [hr])⟩
    obtain ⟨names, last, hnames, hne⟩ := hsplit
    obtain ⟨hempty, hend⟩ := endsWith_intercalate names hne (hslash last (by simp [hnames]))
    rw [← hnames] at hempty hend
    simp only [if_neg h, join, he, Bool.false_eq_true, if_false, hempty, hend, decide_false,
      Bool.or_false]
    rw [segments_append_slash, segments_intercalate (by simp) hslash]

variable {p : Path} {front : List String} {name : String}

theorem pieces_concat (h : segments p = front ++ [name]) (hn : IsName name) :
    ∃ pieces, p.pieces = pieces ++ [⟨name, some (.name name)⟩] ∧
      (front = [] → pieces = []) ∧ ∀ first rest, front = first :: rest →
        pieces = Piece.ofFirst first true :: rest.map Piece.ofText := by
  cases front with
  | nil =>
    refine ⟨[], ?_, fun _ ↦ rfl, by simp⟩
    rw [pieces_of_segments h, hn.ofFirst]
    rfl
  | cons first rest =>
    refine ⟨Piece.ofFirst first true :: rest.map Piece.ofText, ?_, by simp, ?_⟩
    · have hmore : (!(rest ++ [name]).isEmpty) = true := by cases rest <;> rfl
      rw [List.cons_append] at h
      rw [pieces_of_segments h, hmore, List.map_append, List.map_singleton, hn.ofText]
      rfl
    · rintro _ _ ⟨rfl, rfl⟩
      rfl

theorem fileName?_of_segments (h : segments p = front ++ [name]) (hn : IsName name) :
    p.fileName? = some name := by
  obtain ⟨pieces, hp, -⟩ := pieces_concat h hn
  simp [fileName?, components, hp]

theorem parent?_of_pieces {pieces : List Piece}
    (h : p.pieces = pieces ++ [⟨name, some (.name name)⟩]) :
    p.parent? = some (ofPieces (trimEnd pieces)) := by
  simp [parent?, h, trimStart, trimEnd]

/-- A path in the directory of another one shares its stretches up to the last name, less some that
stay where they are. -/
theorem segments_directory (h : segments p = front ++ [name]) (hn : IsName name) :
    ∃ kept skipped, front = kept ++ skipped ∧ (∀ s ∈ skipped, skips s = true) ∧
      (kept = [] → front = []) ∧ ∀ e : Path, e.isAbsolute = false →
        segments ((p.parent?.getD ⟨""⟩).join e) = kept ++ segments e := by
  obtain ⟨pieces, hp, hnil, hcons⟩ := pieces_concat h hn
  rw [parent?_of_pieces hp, Option.getD_some]
  cases front with
  | nil =>
    refine ⟨[], [], rfl, by simp, fun _ ↦ rfl, fun e he ↦ ?_⟩
    rw [hnil rfl]
    simp [trimEnd, trimStart, ofPieces, join, he]
  | cons first rest =>
    have hslash : ∀ s ∈ first :: rest.rdropWhile skips, '/' ∉ s.toList := by
      intro s hs
      refine not_mem_of_mem_segments (p := p) ?_
      rw [h]
      refine List.mem_append_left _ ?_
      rcases List.mem_cons.1 hs with rfl | hs
      · exact List.mem_cons_self
      · exact List.mem_cons_of_mem _ ((rest.rdropWhile_prefix skips).subset hs)
    have hlast : ∀ s ∈ (rest.rdropWhile skips).getLast?, s ≠ "" := by
      intro s hs he
      obtain ⟨hne, rfl⟩ := List.mem_getLast?_eq_getLast hs
      refine List.rdropWhile_last_not skips rest hne ?_
      simp [he, skips]
    refine ⟨first :: rest.rdropWhile skips, rest.rtakeWhile skips, ?_, ?_, by simp, fun e he ↦ ?_⟩
    · rw [List.cons_append, List.rdropWhile_append_rtakeWhile]
    · exact fun s hs ↦ List.mem_rtakeWhile_imp hs
    · rw [hcons first rest rfl, trimEnd_pieces, segments_join hslash hlast he]

end Path

end LintEngine
