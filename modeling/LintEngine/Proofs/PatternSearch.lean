import LintEngine.Proofs.DefaultSearch
import LintEngine.Proofs.LiteralHeads

namespace LintEngine

namespace Path

open FileTree

variable {p : Path} {names tail : List String} {name : String}

theorem join_ofNames (hne : names ≠ []) (h : ∀ s ∈ names, IsName s) (hname : IsName name) :
    (ofNames names).join ⟨name⟩ = ofNames (names ++ [name]) := by
  have hrelative := isAbsolute_of_isName hname
  obtain ⟨front, last, rfl⟩ : ∃ front last, names = front ++ [last] :=
    ⟨_, _, (List.dropLast_append_getLast hne).symm⟩
  have hlast : IsName last := h last (by simp)
  have hlast_ne : last ≠ "" := by
    rintro rfl
    cases hlast.not_skips
  obtain ⟨htext, hend⟩ := endsWith_intercalate front hlast_ne hlast.no_slash
  have hjoin : ofNames (front ++ [last] ++ [name]) =
      ⟨"/".intercalate (front ++ [last]) ++ "/" ++ name⟩ := by
    rw [ofNames, String.intercalate_append_of_ne_nil (by simp) (by simp),
      String.intercalate_singleton]
  rw [hjoin]
  simp [join, hrelative, ofNames, htext, hend]

theorem below_ofNames (hne : names ≠ []) (h : ∀ s ∈ names ++ tail, IsName s) :
    (ofNames names).below tail = ofNames (names ++ tail) := by
  induction tail generalizing names with
  | nil => simp [below]
  | cons name tail ih =>
    have hjoin : (ofNames names).join ⟨name⟩ = ofNames (names ++ [name]) :=
      join_ofNames hne (fun s hs ↦ h s (List.mem_append_left _ hs)) (h name (by simp))
    have hbelow : (ofNames names).below (name :: tail) = ((ofNames names).join ⟨name⟩).below tail :=
      rfl
    rw [hbelow, hjoin, ih (by simp) (by simpa using h), List.append_assoc, List.singleton_append]

theorem ofComponents_names (h : ∀ s ∈ names, IsName s) :
    ofComponents (names.map .name) = ofNames names := by
  cases names with
  | nil => rfl
  | cons name tail =>
    have hrelative := isAbsolute_of_isName (h name (by simp))
    have hfirst : (Path.mk "").join ⟨name⟩ = ofNames [name] := by
      simp [join, hrelative, ofNames]
    have hbelow : ofComponents ((name :: tail).map .name) =
        ((Path.mk "").join ⟨name⟩).below tail := by
      simp [ofComponents, below, List.foldl_map, Component.text]
    rw [hbelow, hfirst, below_ofNames (by simp) h, List.singleton_append]

theorem normalize_ofNames (h : ∀ s ∈ names, IsName s) :
    (ofNames names).normalize = ofNames names := by
  refine normalize_of_head fun rest hc ↦ ?_
  rw [components_ofNames h] at hc
  cases names <;> simp at hc

theorem ofNames_injective {names' : List String} (h : ∀ s ∈ names, IsName s)
    (h' : ∀ s ∈ names', IsName s) (he : ofNames names = ofNames names') : names = names' := by
  have hc := congrArg components he
  rw [components_ofNames h, components_ofNames h'] at hc
  exact List.map_injective_iff.2 (fun a b hab ↦ by simpa using hab) hc

theorem not_mem_text_ofNames {c : Char} (hc : '/' ≠ c) (h : ∀ s ∈ names, c ∉ s.toList) :
    c ∉ (ofNames names).text.toList := by
  have hchars : (ofNames names).text.toList = ['/'].intercalate (names.map String.toList) := by
    simp [ofNames, String.toList_intercalate]
  rw [hchars]
  refine fun hmem ↦ forall_mem_intercalate (P := (· ≠ c)) hc ?_ c hmem rfl
  rintro _ hpart d hd rfl
  obtain ⟨s, hs, rfl⟩ := List.mem_map.1 hpart
  exact h s hs hd

theorem eq_of_inner?_eq_none {s : String} (h : inner? s = none) : s = "" ∨ s = "." := by
  have hskips : skips s = true := by
    by_contra hno
    exact inner?_ne_none (by simpa using hno) h
  simpa [skips] using hskips

theorem isName_of_inner? {s : String} (h : inner? s = some (.name s)) (hslash : '/' ∉ s.toList) :
    IsName s := by
  have hskips : skips s = false := by
    by_contra hs
    rw [inner?_of_skips (by simpa using hs)] at h
    cases h
  have hparent : s ≠ ".." := by
    rintro rfl
    cases h
  exact ⟨hskips, hparent, hslash⟩

def Component.name? : Component → Option String
  | .name s => some s
  | _ => none

theorem map_filterMap_name? {components : List Component}
    (h : ∀ c ∈ components, ∃ s, IsName s ∧ c = .name s) :
    (components.filterMap Component.name?).map .name = components ∧
      ∀ s ∈ components.filterMap Component.name?, IsName s := by
  induction components with
  | nil => simp
  | cons c components ih =>
    rw [List.forall_mem_cons] at h
    obtain ⟨⟨s, hs, rfl⟩, hrest⟩ := h
    obtain ⟨hmap, hnames⟩ := ih hrest
    have hname : (Component.name s).name? = some s := rfl
    rw [List.filterMap_cons_some hname, List.map_cons, hmap, List.forall_mem_cons]
    exact ⟨rfl, hs, hnames⟩

theorem normalize_relative (hr : p.isAbsolute = false) (hp : .parent ∉ p.components) :
    p.normalize.components = [.current] ∨
      p.normalize.components = (segments p.normalize).filterMap inner? ∧
        ∀ c ∈ p.normalize.components, ∃ s, IsName s ∧ c = .name s := by
  have hsub : p.normalize.components ⊆ p.components := by
    rw [components_normalize]
    unfold dropCurrent
    split
    · next hc => rw [hc]; exact List.subset_cons_self _ _
    · exact List.Subset.refl _
  obtain ⟨habs, -⟩ | ⟨-, rest, -, hc⟩ | ⟨-, -, hc⟩ := p.normalize.components_cases
  · rw [isAbsolute_iff_mem] at habs
    rw [← Bool.not_eq_true, isAbsolute_iff_mem] at hr
    exact absurd (hsub habs) hr
  · left
    rw [hc, current_not_head_normalize hc]
  · refine .inr ⟨hc, fun c hmem ↦ ?_⟩
    have hparent : c ≠ .parent := fun he ↦ hp (hsub (he ▸ hmem))
    rw [hc] at hmem
    obtain ⟨s, hs, hinner⟩ := List.mem_filterMap.1 hmem
    obtain h | h | h := inner?_cases s
    · rw [h] at hinner
      cases hinner
    · rw [h] at hinner
      exact absurd (Option.some.inj hinner).symm hparent
    · refine ⟨s, isName_of_inner? h (not_mem_of_mem_segments hs), ?_⟩
      rw [h] at hinner
      exact (Option.some.inj hinner).symm

end Path

namespace FileTree

open LintEngine.Path LintEngine.Result

variable {tree : FileTree} {place : Place} {names tail : List String} {f p : Path} {node : Node}

/-- A tree without links in which a look-up can name every entry. -/
structure Addressable (tree : FileTree) : Prop extends tree.Proper where
  no_nul : ∀ entry ∈ tree.nodes, ∀ name ∈ entry.1, '\x00' ∉ name.toList
  within_limit : ∀ entry ∈ tree.nodes, ∀ name ∈ entry.1, name.utf8ByteSize ≤ nameLimit

theorem locate_current_iff (ht : tree.WithoutLinks) : tree.locate .follow ⟨"."⟩ = .ok place ↔
    tree.isDirectoryAt tree.workingPlace = true ∧ place = tree.workingPlace := by
  have hroute : segments ⟨"."⟩ = ["."] := rfl
  have hstart : tree.startOf ⟨"."⟩ = tree.workingPlace := rfl
  have hdot : skips "." = true := rfl
  rw [locate_eq_ok ht, hroute, hstart]
  by_cases hdir : tree.isDirectoryAt tree.workingPlace = true
  · have hstay : tree.descend tree.workingPlace "." = .ok tree.workingPlace := by
      simp [descend, hdir, hdot]
    have hfold : ["."].foldlM tree.descend tree.workingPlace = .ok tree.workingPlace := by
      simp [hstay]
    rw [hfold, Except.ok.injEq]
    constructor
    · rintro ⟨-, -, -, h⟩
      exact ⟨hdir, h.symm⟩
    · rintro ⟨-, h⟩
      exact ⟨by decide, by decide, by decide, h.symm⟩
  · simp [descend, hdir]

theorem place_of_foldlM (h : ∀ s ∈ names, IsName s) {next : Place}
    (hnext : names.foldlM tree.descend place = .ok next) : next = place ++ names := by
  induction names generalizing place with
  | nil =>
    cases hnext
    rw [List.append_nil]
  | cons name names ih =>
    rw [List.forall_mem_cons] at h
    rw [List.foldlM_cons, bind_eq_ok] at hnext
    obtain ⟨mid, hmid, hrest⟩ := hnext
    rw [ih h.2 hrest]
    obtain ⟨hs, -⟩ | ⟨hparent, -⟩ | ⟨-, -, rfl⟩ := (descend_ok hmid).2
    · rw [h.1.not_skips] at hs
      cases hs
    · exact absurd hparent h.1.not_parent
    · rw [List.append_assoc, List.singleton_append]

theorem foldlM_of_node? (ht : tree.WithoutLinks) (h : ∀ s ∈ names, IsName s)
    (hlimit : ∀ s ∈ names, s.utf8ByteSize ≤ nameLimit)
    (hnode : tree.node? (place ++ (names ++ tail)) = some node) :
    names.foldlM tree.descend place = .ok (place ++ names) := by
  induction names generalizing place with
  | nil => rw [List.append_nil]; rfl
  | cons name names ih =>
    rw [List.forall_mem_cons] at h hlimit
    have hdir : tree.isDirectoryAt place = true := isDirectoryAt_of_below ht (by simp) hnode
    have hnode' : tree.node? (place ++ [name] ++ (names ++ tail)) = some node := by
      simpa using hnode
    have hsome : (tree.node? (place ++ [name])).isSome = true := by
      cases hrest : names ++ tail with
      | nil =>
        rw [hrest, List.append_nil] at hnode'
        rw [hnode', Option.isSome_some]
      | cons first rest =>
        have hinner := isDirectoryAt_of_below ht (by simp [hrest]) hnode'
        unfold isDirectoryAt at hinner
        split at hinner
        · next hn => rw [hn, Option.isSome_some]
        · cases hinner
    have hstep : tree.descend place name = .ok (place ++ [name]) := by
      simp [descend, hdir, h.1.not_skips, h.1.not_parent, Nat.not_lt.2 hlimit.1, hsome]
    rw [List.foldlM_cons, bind_eq_ok]
    exact ⟨_, hstep, by simpa using ih h.2 hlimit.2 hnode'⟩

theorem meets_current_iff (ht : tree.Proper) : tree.Meets ⟨"."⟩ f node ↔
    tree.isDirectoryAt tree.workingPlace = true ∧ ∃ names,
      tree.node? (tree.workingPlace ++ names) = some node ∧
        f = if names = [] then ⟨"."⟩ else ofNames names := by
  have hspelled (names : List String) (hn : tree.node? (tree.workingPlace ++ names) = some node) :
      ((Path.mk ".").below names).normalize = if names = [] then ⟨"."⟩ else ofNames names := by
    split
    · next h => rw [h]; rfl
    · next h => exact normalize_below_current h (names_of_node? ht hn)
  constructor
  · rintro ⟨place, names, hl, hn, rfl⟩
    obtain ⟨hdir, rfl⟩ := (locate_current_iff ht.toWithoutLinks).1 hl
    exact ⟨hdir, names, hn, hspelled names hn⟩
  · rintro ⟨hdir, names, hn, rfl⟩
    exact ⟨_, names, (locate_current_iff ht.toWithoutLinks).2 ⟨hdir, rfl⟩, hn,
      (hspelled names hn).symm⟩

theorem startOf_ofNames (hne : names ≠ []) (h : ∀ s ∈ names, IsName s) :
    tree.startOf (ofNames names) = tree.workingPlace := by
  rw [startOf, isAbsolute_ofNames hne h, if_neg Bool.false_ne_true]

theorem locate_ofNames (ht : tree.Addressable) (hne : names ≠ []) (h : ∀ s ∈ names, IsName s)
    (hlimit : (ofNames names).text.utf8ByteSize ≤ pathLimit)
    (hnode : tree.node? (tree.workingPlace ++ (names ++ tail)) = some node) :
    tree.locate .follow (ofNames names) = .ok (tree.workingPlace ++ names) := by
  have hentry := mem_nodes (by simp [hne]) hnode
  have htext : (ofNames names).text ≠ "" := by
    rw [Ne, ← components_eq_nil_iff, components_ofNames h]
    simpa using hne
  have hnul : '\x00' ∉ (ofNames names).text.toList :=
    not_mem_text_ofNames (by decide) fun s hs ↦ ht.no_nul _ hentry s (by simp [hs])
  refine (locate_eq_ok ht.toWithoutLinks).2 ⟨htext, hnul, hlimit, ?_⟩
  rw [startOf_ofNames hne h, segments_ofNames hne h]
  exact foldlM_of_node? ht.toWithoutLinks h
    (fun s hs ↦ ht.within_limit _ hentry s (by simp [hs])) hnode

/-- A walk from a directory meets what a whole walk meets there, if the way to it is not too
long. -/
theorem meets_ofNames_iff (ht : tree.Addressable) (hne : names ≠ []) (h : ∀ s ∈ names, IsName s) :
    tree.Meets (ofNames names) f node ↔ tree.Meets ⟨"."⟩ f node ∧
      (ofNames names).text.utf8ByteSize ≤ pathLimit ∧ ∃ tail, f = ofNames (names ++ tail) ∧
        ∀ s ∈ names ++ tail, IsName s := by
  have hlinks := ht.toWithoutLinks
  have hspelled (tail : List String) (hnames : ∀ s ∈ names ++ tail, IsName s) :
      ((ofNames names).below tail).normalize = ofNames (names ++ tail) := by
    rw [below_ofNames hne hnames, normalize_ofNames hnames]
  constructor
  · rintro ⟨place, tail, hl, hn, rfl⟩
    obtain ⟨-, -, hlimit, hfold⟩ := (locate_eq_ok hlinks).1 hl
    rw [startOf_ofNames hne h, segments_ofNames hne h] at hfold
    obtain rfl := place_of_foldlM h hfold
    rw [List.append_assoc] at hn
    have hnames := names_of_node? ht.toProper hn
    have hdir := isDirectoryAt_of_below hlinks (by simp [hne]) hn
    rw [hspelled tail hnames]
    exact ⟨(meets_current_iff ht.toProper).2 ⟨hdir, names ++ tail, hn, by simp [hne]⟩, hlimit,
      tail, rfl, hnames⟩
  · rintro ⟨hmeets, hlimit, tail, rfl, hnames⟩
    obtain ⟨-, names', hn, hsame⟩ := (meets_current_iff ht.toProper).1 hmeets
    -- The names under which the whole walk comes to the path are those that spell it.
    obtain rfl : names ++ tail = names' := by
      split at hsame
      · have hc := congrArg components hsame
        rw [components_ofNames hnames, components_current] at hc
        cases hnil : names ++ tail <;> simp [hnil] at hc
      · exact ofNames_injective hnames (names_of_node? ht.toProper hn) hsame
    have hlocate := locate_ofNames ht hne h hlimit hn
    exact ⟨_, tail, hlocate, by rwa [List.append_assoc], (hspelled tail hnames).symm⟩

end FileTree

namespace Search

open LintEngine.Path LintEngine.FileTree LintEngine.Glob

variable {tree : FileTree} {pattern : String} {glob : List Token} {p f : Path} {node : Node}
  {tail : List String}

def literalNames (p : Path) : List String :=
  (p.components.takeWhile isLiteral).filterMap Component.name?

/-- The names with which a pattern begins have no backslash in them, and can be looked up. -/
structure PlainHead (p : Path) : Prop where
  no_escape : ∀ name ∈ literalNames p, '\\' ∉ name.toList
  fits : (ofNames (literalNames p)).text.utf8ByteSize ≤ pathLimit

theorem all_isLiteral_inner? (s : String) : (inner? s).all isLiteral = !s.toList.any isWild := by
  obtain h | h | h := inner?_cases s
  · rw [h]
    obtain rfl | rfl := eq_of_inner?_eq_none h <;> rfl
  · have hs : s = ".." := by
      by_contra hne
      by_cases hskips : skips s = true
      · rw [inner?_of_skips hskips] at h
        cases h
      · have h' : ¬ (s = "" ∨ s = ".") := by simpa [skips] using hskips
        simp [inner?, Piece.ofText, h', hne] at h
    rw [h, hs]
    rfl
  · rw [h]
    rfl

theorem takeWhile_isLiteral (h : p.components = (segments p).filterMap inner?) :
    p.components.takeWhile isLiteral = ((literalParts p).map String.ofList).filterMap inner? := by
  have hpred : (fun s ↦ (inner? s).all isLiteral) ∘ String.ofList =
      fun part ↦ !part.any isWild := by
    funext part
    simp [all_isLiteral_inner?]
  rw [h, List.takeWhile_filterMap, segments, List.takeWhile_map, hpred, literalParts]

theorem literalNames_normalize (hr : p.isAbsolute = false) (hp : .parent ∉ p.components) :
    literalNames p.normalize = [] ∧ walkStart p.normalize = ⟨"."⟩ ∨
    literalNames p.normalize ≠ [] ∧
      walkStart p.normalize = ofNames (literalNames p.normalize) ∧
      (∀ s ∈ literalNames p.normalize, IsName s) ∧
      (literalNames p.normalize).map .name =
        ((literalParts p.normalize).map String.ofList).filterMap inner? := by
  obtain hc | ⟨hc, hnames⟩ := normalize_relative hr hp
  · have hnone : literalNames p.normalize = [] := by
      rw [literalNames, hc]
      rfl
    refine .inl ⟨hnone, ?_⟩
    rw [walkStart, literalStart, hc]
    rfl
  · obtain ⟨hmap, hall⟩ := map_filterMap_name? fun c hmem ↦
      hnames c ((p.normalize.components.takeWhile_subset isLiteral) hmem)
    rw [← literalNames] at hmap hall
    have hstart : literalStart p.normalize = ofNames (literalNames p.normalize) := by
      rw [literalStart, ← hmap, ofComponents_names hall]
    by_cases hnil : literalNames p.normalize = []
    · refine .inl ⟨hnil, ?_⟩
      rw [walkStart, hstart, hnil]
      rfl
    · refine .inr ⟨hnil, ?_, hall, by rw [← takeWhile_isLiteral hc]; exact hmap⟩
      have htext : (ofNames (literalNames p.normalize)).text ≠ "" := by
        rw [Ne, ← components_eq_nil_iff, components_ofNames hall]
        simpa using hnil
      rw [walkStart, hstart, if_neg htext]

section Heads

variable (hq : (literalNames p).map .name = ((literalParts p).map String.ofList).filterMap inner?)
  (hglob : parse p.text = .ok glob) (hf : matchesText glob f = true)
include hq

theorem inner?_literalPart {part : List Char} (hpart : part ∈ literalParts p) :
    inner? (String.ofList part) = none ∨
      inner? (String.ofList part) = some (.name (String.ofList part)) ∧
        String.ofList part ∈ literalNames p := by
  have hmem : ∀ c ∈ inner? (String.ofList part), c ∈ (literalNames p).map Component.name := by
    intro c hc
    rw [hq]
    exact List.mem_filterMap.2 ⟨_, List.mem_map_of_mem hpart, hc⟩
  obtain h | h | h := inner?_cases (String.ofList part)
  · exact .inl h
  · have hparent := hmem _ h
    simp at hparent
  · have hname := hmem _ h
    exact .inr ⟨h, by simpa using hname⟩

include hglob hf

theorem literalNames_of_no_escape (hno : ∀ name ∈ literalNames p, '\\' ∉ name.toList) :
    (literalNames p).map .name <+: (segments f).filterMap inner? := by
  have hsame : (literalParts p).map unescape = literalParts p := by
    refine (List.map_congr_left fun part hpart ↦ ?_).trans (List.map_id _)
    refine unescape_of_not_mem ?_
    rw [← String.toList_ofList (l := part)]
    obtain h | ⟨-, hmem⟩ := inner?_literalPart hq hpart
    · obtain h | h := eq_of_inner?_eq_none h <;> simp [h]
    · exact hno _ hmem
  have hhead := literalParts_unescaped hglob hf
  rw [hsame] at hhead
  rw [hq]
  exact (hhead.map String.ofList).filterMap inner?

/-- A backslash at the head of a pattern stands for what the names there do not: nothing that
matches begins with them. -/
theorem no_escape_of_literalNames (hne : literalNames p ≠ [])
    (hnames : ∀ s ∈ literalNames p ++ tail, IsName s)
    (hspelled : f = ofNames (literalNames p ++ tail)) :
    ∀ name ∈ literalNames p, '\\' ∉ name.toList := by
  have hsplit : splitSlashes f.text.toList = (literalNames p ++ tail).map String.toList := by
    rw [← segments_ofNames (by simp [hne]) hnames, ← hspelled, segments, List.map_map]
    simp [Function.comp_def]
  have hhead := literalParts_unescaped hglob hf
  rw [hsplit] at hhead
  -- What a stretch stands for is a name, so that the stretch itself is not skipped.
  have hinner : ∀ part ∈ literalParts p,
      inner? (String.ofList part) = some (.name (String.ofList part)) := by
    intro part hpart
    obtain h | ⟨h, -⟩ := inner?_literalPart hq hpart
    · obtain ⟨s, hs, hunescaped⟩ := List.mem_map.1 (hhead.subset (List.mem_map_of_mem hpart))
      have hskips : skips s = true := by
        rw [← String.ofList_toList (s := s), hunescaped, ← String.toList_ofList (l := part)]
        obtain h | h := eq_of_inner?_eq_none h <;> rw [h] <;> rfl
      rw [(hnames s hs).not_skips] at hskips
      cases hskips
    · exact h
  have hparts : (literalParts p).map String.ofList = literalNames p := by
    have hall : ∀ s ∈ (literalParts p).map String.ofList, inner? s = some (.name s) := by
      simpa using hinner
    rw [List.filterMap_congr hall, List.filterMap_eq_map'] at hq
    exact (List.map_injective_iff.2 (fun a b hab ↦ by simpa using hab) hq).symm
  have hlists : literalParts p = (literalNames p).map String.toList := by
    rw [← hparts, List.map_map]
    simp [Function.comp_def]
  rw [hlists, List.map_append, List.map_map] at hhead
  have hbegins := List.prefix_of_prefix_length_le hhead (List.prefix_append _ _) (by simp)
  have hsame := hbegins.eq_of_length (by simp)
  exact fun name hname ↦ not_mem_of_unescape_eq (List.map_inj_left.1 hsame name hname)

end Heads

/-- Of what a pattern matches, its walk meets what the whole walk meets, if the names at the head of
the pattern are plain, and nothing otherwise. -/
theorem meets_walkStart_iff (ht : tree.Addressable) (hr : (Path.mk pattern).isAbsolute = false)
    (hp : .parent ∉ (Path.mk pattern).components) (hc : Glob.compile pattern = .ok glob) :
    tree.Meets (walkStart (Path.mk pattern).normalize) f node ∧ matchesText glob f = true ↔
      tree.Meets ⟨"."⟩ f node ∧ PlainHead (Path.mk pattern).normalize ∧
        matchesText glob f = true := by
  have hglob : parse (Path.mk pattern).normalize.text = .ok glob := Result.mapError_ok_iff _ |>.1 hc
  obtain ⟨hnil, hstart⟩ | ⟨hne, hstart, hnames, hq⟩ := literalNames_normalize hr hp
  · have hplain : PlainHead (Path.mk pattern).normalize := by
      refine ⟨by simp [hnil], ?_⟩
      rw [hnil]
      decide
    rw [hstart]
    simp [hplain]
  · rw [hstart, FileTree.meets_ofNames_iff ht hne hnames]
    constructor
    · rintro ⟨⟨hmeets, hfits, tail, hspelled, htail⟩, hf⟩
      exact ⟨hmeets, ⟨no_escape_of_literalNames hq hglob hf hne htail hspelled, hfits⟩, hf⟩
    · rintro ⟨hmeets, hplain, hf⟩
      refine ⟨⟨hmeets, hplain.fits, ?_⟩, hf⟩
      have hhead := literalNames_of_no_escape hq hglob hf hplain.no_escape
      obtain ⟨-, names, hn, hspelled⟩ := (FileTree.meets_current_iff ht.toProper).1 hmeets
      have hall := names_of_node? ht.toProper hn
      split at hspelled
      · have hskipped : (segments ⟨"."⟩).filterMap inner? = [] := rfl
        rw [hspelled, hskipped] at hhead
        exact absurd (by simpa using hhead) hne
      · next hnonempty =>
        rw [hspelled, segments_ofNames hnonempty hall, filterMap_inner_of_names hall,
          List.prefix_map_iff_of_injective fun a b hab ↦ Component.name.inj hab] at hhead
        obtain ⟨tail, rfl⟩ := hhead
        exact ⟨tail, hspelled, hall⟩

/-- What the search for a pattern comes to: of the files that a whole walk meets, those with a
property, and a failure if nothing on the walk has it. -/
structure Finds (tree : FileTree) (pattern : String) (property : Path → Prop) : Prop where
  mem_iff : ∀ files, filesMatching tree pattern = .ok files → ∀ f,
    f ∈ files ↔ property f ∧ ∃ content, tree.Meets ⟨"."⟩ f (.file content)
  succeeds_iff : (∃ files, filesMatching tree pattern = .ok files) ↔
    ∃ f node, tree.Meets ⟨"."⟩ f node ∧ property f
  fails_only : ∀ e, filesMatching tree pattern = .error e → e = .unmatchedPattern pattern

theorem filesMatching_error {e : Error} (hc : Glob.compile pattern = .ok glob)
    (h : filesMatching tree pattern = .error e) : e = .unmatchedPattern pattern := by
  have hglobs : compile [pattern] = .ok ⟨[glob]⟩ := compile_singleton.2 ⟨glob, hc, rfl⟩
  rw [filesMatching, hglobs] at h
  dsimp only [bind, Except.bind] at h
  split at h
  · exact (Except.error.inj h).symm
  · cases h

/-- The search for a relative pattern finds what matches it on a walk of the whole working
directory, unless a backslash stands in the names at its head or these make up too long a path. In
that case it finds nothing. -/
theorem filesMatching_exact (ht : tree.Addressable) (hr : (Path.mk pattern).isAbsolute = false)
    (hp : .parent ∉ (Path.mk pattern).components) (hc : Glob.compile pattern = .ok glob) :
    Finds tree pattern fun f ↦ PlainHead (Path.mk pattern).normalize ∧
      matchesText glob f = true where
  mem_iff files hfiles f := by
    have hoffers : f ∈ files ↔ (Source.pattern pattern).Offers tree [] f :=
      Source.mem_candidates_pattern ht.toProper hfiles
    rw [hoffers]
    constructor
    · intro h
      cases h with
      | @matching _ glob' _ content hglob hmeets hmatch =>
        obtain rfl : glob = glob' := Except.ok.inj (hc.symm.trans hglob)
        obtain ⟨hwhole, hfound⟩ := (meets_walkStart_iff ht hr hp hc).1 ⟨hmeets, hmatch⟩
        exact ⟨hfound, content, hwhole⟩
    · rintro ⟨hfound, content, hwhole⟩
      obtain ⟨hmeets, hmatch⟩ := (meets_walkStart_iff ht hr hp hc).2 ⟨hwhole, hfound⟩
      exact .matching hc hmeets hmatch
  succeeds_iff := by
    have havailable : (∃ files, (Source.pattern pattern).candidates tree [] = .ok files) ↔
        (Source.pattern pattern).Available tree := Source.exists_candidates_iff ht.toProper
    refine havailable.trans ?_
    constructor
    · rintro ⟨glob', hglob, f, node, h⟩
      obtain rfl : glob = glob' := Except.ok.inj (hc.symm.trans hglob)
      exact ⟨f, node, (meets_walkStart_iff ht hr hp hc).1 h⟩
    · rintro ⟨f, node, h⟩
      exact ⟨glob, hc, f, node, (meets_walkStart_iff ht hr hp hc).2 h⟩
  fails_only e h := filesMatching_error hc h

theorem oneFile_addressable : oneFile.Addressable where
  toProper := oneFile_proper
  no_nul := by simp [oneFile]
  within_limit := by
    simp only [oneFile]
    decide

theorem filesMatching_exact_oneFile :
    oneFile.Addressable ∧ (Path.mk "a/\\b*").isAbsolute = false ∧
    Component.parent ∉ (Path.mk "a/\\b*").components ∧
    Glob.compile "a/\\b*" = .ok [.literal 'a', .literal '/', .literal 'b', .star] ∧
    PlainHead (Path.mk "a/\\b*").normalize ∧
    ∃ files, filesMatching oneFile "a/\\b*" = .ok files ∧ ⟨"a/b"⟩ ∈ files := by
  have hc : Glob.compile "a/\\b*" = .ok [.literal 'a', .literal '/', .literal 'b', .star] := rfl
  have hr : (Path.mk "a/\\b*").isAbsolute = false := rfl
  have hp : Component.parent ∉ (Path.mk "a/\\b*").components := by decide
  have hplain : PlainHead (Path.mk "a/\\b*").normalize := by
    have hnames : literalNames (Path.mk "a/\\b*").normalize = ["a"] := by decide
    refine ⟨by simp [hnames], ?_⟩
    rw [hnames]
    decide
  have hmeets : oneFile.Meets ⟨"."⟩ ⟨"a/b"⟩ (.file ByteArray.empty) :=
    ⟨[], ["a", "b"], locate_oneFile.2.2.1, rfl, by decide +kernel⟩
  have hmatch : matchesText [.literal 'a', .literal '/', .literal 'b', .star] ⟨"a/b"⟩ = true := by
    decide +kernel
  have hfinds := filesMatching_exact oneFile_addressable hr hp hc
  obtain ⟨files, hfiles⟩ := hfinds.succeeds_iff.2 ⟨_, _, hmeets, hplain, hmatch⟩
  exact ⟨oneFile_addressable, hr, hp, hc, hplain, files, hfiles,
    (hfinds.mem_iff files hfiles _).2 ⟨⟨hplain, hmatch⟩, _, hmeets⟩⟩

def shortFile : FileTree where
  nodes := [(["ab"], .file ByteArray.empty)]
  workingPlace := []

theorem filesMatching_escaped :
    Glob.compile "a\\b" = .ok [.literal 'a', .literal 'b'] ∧
    matchesText [.literal 'a', .literal 'b'] ⟨"ab"⟩ = true ∧
    shortFile.Meets ⟨"."⟩ ⟨"ab"⟩ (.file ByteArray.empty) ∧
    filesMatching shortFile "a\\b" = .error (.unmatchedPattern "a\\b") := by
  have hlinks : shortFile.WithoutLinks :=
    .of_nodes (by simp [shortFile]) (by decide) (by simp [shortFile])
  refine ⟨rfl, by decide +kernel, ⟨[], ["ab"], (locate_current_iff hlinks).2 ⟨rfl, rfl⟩, rfl,
    by decide +kernel⟩, ?_⟩
  have hcompile : compile ["a\\b"] = .ok ⟨[[.literal 'a', .literal 'b']]⟩ :=
    compile_singleton.2 ⟨_, rfl, rfl⟩
  have hstart : walkStart (Path.mk "a\\b").normalize = ⟨"a\\b"⟩ := rfl
  have hseg : segments ⟨"a\\b"⟩ = ["a\\b"] := rfl
  have hlocate : shortFile.locate .keepLink ⟨"a\\b"⟩ = .error .notFound := by
    simp only [locate, String.contains_char_eq, hseg, walkTo]
    rfl
  have hwalk : shortFile.walk ⟨"a\\b"⟩ = [] := by rw [walk, hlocate]
  rw [filesMatching, hcompile, hstart]
  simp [bind, Except.bind, matchingEntries, hwalk]

end Search

end LintEngine
