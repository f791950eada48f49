import LintEngine.Proofs.Components
import Mathlib.Data.List.Basic

namespace LintEngine.Path

open FileTree

variable {p q w : Path}

/-- The names in a path: all that stands between its slashes, but for single dots. -/
def names (p : Path) : List String :=
  ((p.text.toList.splitOn '/').map String.ofList).filter fun s ↦ s ≠ "" ∧ s ≠ "."

/-- A text that more can be appended to: it ends in a slash unless it is empty. -/
def slashed (text : String) : String :=
  if text = "" ∨ ['/'] <:+ text.toList then text else text ++ "/"

/-- What the absolute form of a path starts with. Two slashes at the start of a path are kept, more
of them count as one. -/
def origin (w p : Path) : String :=
  match p.text.toList with
  | '/' :: '/' :: '/' :: _ => "/"
  | '/' :: '/' :: _ => "//"
  | '/' :: _ => "/"
  | _ => w.text

/-- The absolute form of a path, seen from the directory `w`. A slash at the end of the path is
kept, and the empty path, which has no such form, is left as it is. -/
def absoluteName (w p : Path) : String :=
  if p.text = "" then ""
  else
    let body :=
      if p.names = [] then origin w p else slashed (origin w p) ++ "/".intercalate p.names
    if ['/'] <:+ p.text.toList then slashed body else body

example : absoluteName ⟨"/w"⟩ ⟨"./a//../b/./c/"⟩ = "/w/a/../b/c/" := by decide

example : absoluteName ⟨"/w"⟩ ⟨"//a"⟩ = "//a" ∧ absoluteName ⟨"/w"⟩ ⟨"///a"⟩ = "/a" := by decide

theorem splitSlashes_eq (l : List Char) : splitSlashes l = l.splitOn '/' := by
  induction l with
  | nil => rfl
  | cons c rest ih =>
    have hsplit : (c :: rest).splitOn '/' =
        if c = '/' then [] :: rest.splitOn '/' else (rest.splitOn '/').modifyHead (c :: ·) := by
      simp [List.splitOn, List.splitOnP_cons_eq_if_modifyHead]
    rw [splitSlashes, hsplit, ← ih]
    cases hrest : splitSlashes rest with
    | nil => exact absurd hrest (splitSlashes_ne_nil rest)
    | cons part parts => rfl

theorem names_eq (p : Path) : p.names = (segments p).filter (!skips ·) := by
  rw [names, segments, splitSlashes_eq]
  exact List.filter_congr fun s _ ↦ by simp [skips]

theorem map_text_inner (l : List String) :
    (l.filterMap inner?).map Component.text = l.filter (!skips ·) := by
  have htext (s : String) : (inner? s).map Component.text = Option.guard (!skips ·) s := by
    unfold inner? Piece.ofText skips Option.guard
    dsimp only
    by_cases hs : (decide (s = "") || decide (s = ".")) = true
    · simp [hs]
    · by_cases hparent : s = ".."
      · simp [hparent, Component.text]
      · simp [hs, hparent, Component.text]
  rw [List.map_filterMap, ← List.filterMap_eq_filter]
  exact List.filterMap_congr fun s _ ↦ htext s

/-- Without a leading dot a path is made of its names, below the root if it is absolute. -/
theorem map_text_strip (p : Path) :
    ((p.strip? ⟨"."⟩).getD p).components.map Component.text =
      (if p.isAbsolute then ["/"] else []) ++ p.names := by
  have hstays (h : Component.current ∉ p.components) : (p.strip? ⟨"."⟩).getD p = p := by
    have hstarts : p.startsWith ⟨"."⟩ = false := by
      rw [← Bool.not_eq_true, startsWith_iff, components_current]
      rintro ⟨rest, hrest⟩
      exact h (hrest ▸ List.mem_cons_self)
    simp [strip?, hstarts]
  rw [names_eq]
  obtain ⟨hp, rest, hs, hc⟩ | ⟨hp, rest, hs, hc⟩ | ⟨hp, -, hc⟩ := p.components_cases
  · have hcurrent : Component.current ∉ p.components := by
      rw [hc]
      exact List.not_mem_cons_of_ne_of_not_mem (by decide) (current_not_mem_inner rest)
    have hroot : skips "" = true := rfl
    rw [hstays hcurrent, hc, hs, List.map_cons, map_text_inner, hp,
      List.filter_cons_of_neg (by simp [hroot])]
    rfl
  · have hstarts : p.startsWith ⟨"."⟩ = true := by
      rw [startsWith_iff, components_current, hc]
      exact ⟨_, rfl⟩
    obtain ⟨names, hstrip, hslash, hcomponents⟩ :=
      strip?_cases hstarts (by simp [components_current])
    have hrest : rest.filterMap inner? = names.filterMap inner? := by
      rw [hc, components_current] at hcomponents
      exact (List.cons.inj hcomponents).2
    have hdot : skips "." = true := rfl
    rw [hstrip, Option.getD_some, components_trimmed hslash, ← hrest, map_text_inner, hp, hs,
      List.filter_cons_of_neg (by simp [hdot])]
    rfl
  · rw [hstays (hc ▸ current_not_mem_inner _), hc, map_text_inner, hp]
    rfl

theorem join_eq (h : q.isAbsolute = false) : p.join q = ⟨slashed p.text ++ q.text⟩ := by
  unfold join slashed
  simp only [h, Bool.false_eq_true, if_false, Bool.or_eq_true, decide_eq_true_eq,
    endsWith_slash_iff]
  split <;> rfl

theorem slashed_append {text name : String} (hne : name ≠ "") (hslash : '/' ∉ name.toList) :
    slashed (text ++ name) = text ++ name ++ "/" := by
  refine if_neg ?_
  rintro (h | h)
  · exact hne (String.append_eq_empty_iff.1 h).2
  · rw [String.toList_append] at h
    have hlast : ['/'] <:+ name.toList := by
      refine List.suffix_of_suffix_length_le h (List.suffix_append _ _) ?_
      simpa [Nat.one_le_iff_ne_zero] using hne
    exact hslash (hlast.subset List.mem_cons_self)

theorem foldl_join {l : List String} (hl : ∀ s ∈ l, s ≠ "" ∧ '/' ∉ s.toList) (p : Path) :
    (l.foldl (fun q s ↦ q.join ⟨s⟩) p).text =
      if l = [] then p.text else slashed p.text ++ "/".intercalate l := by
  induction l generalizing p with
  | nil => rfl
  | cons s rest ih =>
    obtain ⟨⟨hne, hslash⟩, hrest⟩ := List.forall_mem_cons.1 hl
    have hrelative : (Path.mk s).isAbsolute = false := by
      rw [isAbsolute, beq_eq_false_iff_ne]
      exact fun h ↦ hslash (List.mem_of_mem_head? h)
    rw [List.foldl_cons, ih hrest, join_eq hrelative, if_neg (List.cons_ne_nil s rest)]
    cases rest with
    | nil => simp
    | cons next rest =>
      rw [if_neg (List.cons_ne_nil next rest), slashed_append hne hslash]
      simp [String.append_assoc]

theorem origin_eq (w p : Path) : origin w p =
    if p.isAbsolute then
      if p.text.startsWith "//" && !p.text.startsWith "///" then "//" else "/"
    else w.text := by
  have hprefix (t : String) : p.text.startsWith t = true ↔ t.toList <+: p.text.toList := by
    rw [String.startsWith_eq_startsWith_toSlice, String.Slice.startsWith_string_iff,
      String.copy_toSlice]
  have htwo : p.text.startsWith "//" = true ↔ ['/', '/'] <+: p.text.toList := hprefix "//"
  have hthree : p.text.startsWith "///" = true ↔ ['/', '/', '/'] <+: p.text.toList := hprefix "///"
  have hone (l : List Char) : ['/'] <+: l ↔ ∃ rest, l = '/' :: rest :=
    ⟨fun ⟨rest, h⟩ ↦ ⟨rest, h.symm⟩, fun ⟨rest, h⟩ ↦ ⟨rest, h.symm⟩⟩
  simp only [origin, isAbsolute, Bool.and_eq_true, Bool.not_eq_true', ← Bool.not_eq_true, htwo,
    hthree, beq_iff_eq]
  split
  · next h => simp [h]
  · next hmore h => simpa [h, hone] using hmore
  · next hmore h =>
    have hno : ¬ ['/', '/'] <+: p.text.toList := by simpa [h, hone] using hmore
    rw [if_pos (by rw [h]; rfl), if_neg fun htwo ↦ hno htwo.1]
  · next hmore =>
    rw [if_neg]
    intro h
    obtain ⟨rest, hrest⟩ := List.head?_eq_some_iff.1 h
    exact hmore rest hrest

theorem absolute_eq (w p : Path) : ((p.absolute? w).getD p).text = absoluteName w p := by
  have hnames : ∀ s ∈ p.names, s ≠ "" ∧ '/' ∉ s.toList := by
    intro s hs
    rw [names_eq, List.mem_filter] at hs
    refine ⟨?_, not_mem_of_mem_segments hs.1⟩
    rintro rfl
    cases hs.2
  have hfold {l : List Component} (q : Path) (h : l.map Component.text = p.names) :
      (l.foldl (fun q c ↦ q.join ⟨c.text⟩) q).text =
        if p.names = [] then q.text else slashed q.text ++ "/".intercalate p.names := by
    rw [← foldl_join hnames, ← h, List.foldl_map]
  have hend (body : Path) :
      (if p.text.endsWith "/" then body.join ⟨""⟩ else body).text =
        if ['/'] <:+ p.text.toList then slashed body.text else body.text := by
    simp only [← endsWith_slash_iff]
    split
    · rw [join_eq rfl, String.append_empty]
    · rfl
  unfold absolute? absoluteName
  by_cases hp : p.text = ""
  · simp [hp]
  have htexts := map_text_strip p
  simp only [hp, if_false, Option.getD_some, hend, origin_eq]
  cases habs : p.isAbsolute with
  | false =>
    rw [habs] at htexts
    simp only [Bool.false_eq_true, if_false, hfold w htexts]
  | true =>
    rw [habs, if_pos rfl, List.singleton_append] at htexts
    obtain ⟨c, rest, hcomponents, hroot, hrest⟩ := List.map_eq_cons_iff.1 htexts
    have hjoin : (Path.mk "").join ⟨c.text⟩ = ⟨"/"⟩ := by rw [hroot]; rfl
    simp only [if_true, hcomponents, List.tail_cons, ofComponents, List.foldl_cons, hjoin]
    cases p.text.startsWith "//" && !p.text.startsWith "///" with
    | true => simp only [if_true, hfold _ hrest]
    | false => simp only [Bool.false_eq_true, if_false, hfold _ hrest]

theorem prefix_slashed {text : String} (h : ['/'] <+: text.toList) :
    ['/'] <+: (slashed text).toList := by
  unfold slashed
  split
  · exact h
  · rw [String.toList_append]
    exact h.trans (List.prefix_append _ _)

theorem prefix_absoluteName (hw : ['/'] <+: w.text.toList) (hp : p.text ≠ "") :
    ['/'] <+: (absoluteName w p).toList := by
  have horigin : ['/'] <+: (origin w p).toList := by
    unfold origin
    split
    · exact ⟨[], rfl⟩
    · exact ⟨['/'], rfl⟩
    · exact ⟨[], rfl⟩
    · exact hw
  have hbody : ['/'] <+: (if p.names = [] then origin w p
      else slashed (origin w p) ++ "/".intercalate p.names).toList := by
    split
    · exact horigin
    · rw [String.toList_append]
      exact (prefix_slashed horigin).trans (List.prefix_append _ _)
  unfold absoluteName
  rw [if_neg hp]
  dsimp only
  split
  · exact prefix_slashed hbody
  · exact hbody

end LintEngine.Path
