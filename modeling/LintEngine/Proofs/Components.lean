import LintEngine.Proofs.Segments

namespace LintEngine

namespace Path

open FileTree

variable {p q base : Path} {names : List String}

def inner? (s : String) : Option Component := (Piece.ofText s).component

theorem inner?_of_skips {s : String} (h : skips s = true) : inner? s = none := ofText_of_skips h

theorem inner?_ne_none {s : String} (h : skips s = false) : inner? s ≠ none :=
  Option.isSome_iff_ne_none.1 (ofText_of_not_skips h)

theorem IsName.inner? {s : String} (h : IsName s) : inner? s = some (.name s) := by
  rw [Path.inner?, h.ofText]

theorem inner?_cases (s : String) :
    inner? s = none ∨ inner? s = some .parent ∨ inner? s = some (.name s) := by
  unfold inner? Piece.ofText
  dsimp only
  split
  · exact .inl rfl
  · split
    · exact .inr (.inl rfl)
    · exact .inr (.inr rfl)

theorem root_not_mem_inner (l : List String) : Component.root ∉ l.filterMap inner? := by
  intro h
  obtain ⟨s, -, hs⟩ := List.mem_filterMap.1 h
  obtain h | h | h := inner?_cases s <;> rw [h] at hs <;> cases hs

theorem current_not_mem_inner (l : List String) : Component.current ∉ l.filterMap inner? := by
  intro h
  obtain ⟨s, -, hs⟩ := List.mem_filterMap.1 h
  obtain h | h | h := inner?_cases s <;> rw [h] at hs <;> cases hs

theorem filterMap_inner_of_names (h : ∀ s ∈ names, IsName s) :
    names.filterMap inner? = names.map .name := by
  rw [← List.filterMap_eq_map']
  exact List.filterMap_congr fun s hs ↦ (h s hs).inner?

theorem filterMap_ofText (l : List String) :
    (l.map Piece.ofText).filterMap (·.component) = l.filterMap inner? :=
  List.filterMap_map

theorem intercalate_splitSlashes (l : List Char) : ['/'].intercalate (splitSlashes l) = l := by
  induction l with
  | nil => rfl
  | cons c rest ih =>
    rw [splitSlashes]
    cases hr : splitSlashes rest with
    | nil => exact absurd hr (splitSlashes_ne_nil rest)
    | cons part parts =>
      rw [hr] at ih
      split
      · next hc => rw [List.intercalate_cons_cons, ih, hc]; rfl
      · cases parts with
        | nil => rw [List.intercalate_singleton] at ih ⊢; rw [ih]
        | cons next parts =>
          rw [List.intercalate_cons_cons] at ih ⊢
          rw [← ih]
          rfl

theorem intercalate_segments (p : Path) : "/".intercalate (segments p) = p.text := by
  have hs : (String.toList "/") = ['/'] := rfl
  rw [← String.toList_inj, String.toList_intercalate, hs, segments, List.map_map]
  simpa [Function.comp_def] using intercalate_splitSlashes p.text.toList

/-- A path starts with the root, with `.` or with neither of them. -/
theorem components_cases (p : Path) :
    (p.isAbsolute = true ∧ ∃ rest, segments p = "" :: rest ∧
      p.components = .root :: rest.filterMap inner?) ∨
    (p.isAbsolute = false ∧ ∃ rest, segments p = "." :: rest ∧
      p.components = .current :: rest.filterMap inner?) ∨
    (p.isAbsolute = false ∧ (p.components = [] → p.text = "") ∧
      p.components = (segments p).filterMap inner?) := by
  cases hs : segments p with
  | nil => exact absurd hs (segments_ne_nil p)
  | cons first rest =>
    have hcomponents : p.components =
        (Piece.ofFirst first (!rest.isEmpty)).component.toList ++ rest.filterMap inner? := by
      rw [components, pieces_of_segments hs, List.filterMap_cons, filterMap_ofText]
      cases (Piece.ofFirst first (!rest.isEmpty)).component <;> rfl
    by_cases hroot : first = "" ∧ rest ≠ []
    · obtain ⟨rfl, hrest⟩ := hroot
      refine .inl ⟨isAbsolute_iff.2 ⟨rest, hrest, hs⟩, rest, rfl, ?_⟩
      simp [hcomponents, Piece.ofFirst, hrest]
    · have hrelative : p.isAbsolute = false := by
        rw [← Bool.not_eq_true, isAbsolute_iff]
        rintro ⟨rest', hrest', hs'⟩
        cases hs.symm.trans hs'
        exact hroot ⟨rfl, hrest'⟩
      have hfirst : (decide (first = "") && !rest.isEmpty) = false := by simpa using hroot
      by_cases hdot : first = "."
      · subst hdot
        refine .inr (.inl ⟨hrelative, rest, rfl, ?_⟩)
        simp [hcomponents, Piece.ofFirst]
      · have hinner : p.components = (first :: rest).filterMap inner? := by
          simp only [hcomponents, Piece.ofFirst, hfirst, hdot, Bool.false_eq_true, if_false,
            List.filterMap_cons, ← inner?.eq_def]
          cases inner? first <;> rfl
        refine .inr (.inr ⟨hrelative, fun hnil ↦ ?_, hinner⟩)
        rw [hinner, List.filterMap_eq_nil_iff] at hnil
        have hskips : skips first = true := by
          by_contra hno
          exact inner?_ne_none (by simpa using hno) (hnil first List.mem_cons_self)
        have hempty : first = "" := by simpa [skips, hdot] using hskips
        have hrest : rest = [] := by simpa [hempty] using hroot
        rw [← intercalate_segments p, hs, hempty, hrest]
        rfl

theorem isAbsolute_iff_mem : p.isAbsolute = true ↔ Component.root ∈ p.components := by
  obtain ⟨hp, rest, -, hc⟩ | ⟨hp, rest, -, hc⟩ | ⟨hp, -, hc⟩ := p.components_cases
  · simp [hp, hc]
  · have hroot := root_not_mem_inner rest
    simp_all
  · have hroot := root_not_mem_inner (segments p)
    simp_all

theorem components_eq_nil_iff : p.components = [] ↔ p.text = "" := by
  constructor
  · intro h
    obtain ⟨-, rest, -, hc⟩ | ⟨-, rest, -, hc⟩ | ⟨-, htext, -⟩ := p.components_cases
    · rw [hc] at h
      cases h
    · rw [hc] at h
      cases h
    · exact htext h
  · intro h
    have hp : p = ⟨""⟩ := by rw [← h]
    rw [hp]
    rfl

theorem current_not_mem_tail (p : Path) : Component.current ∉ p.components.tail := by
  obtain ⟨-, rest, -, hc⟩ | ⟨-, rest, -, hc⟩ | ⟨-, -, hc⟩ := p.components_cases
  · rw [hc]
    exact current_not_mem_inner rest
  · rw [hc]
    exact current_not_mem_inner rest
  · rw [hc]
    exact fun h ↦ current_not_mem_inner _ (List.mem_of_mem_tail h)

theorem filter_current {l : List Component} (h : Component.current ∉ l) :
    l.filter (· ≠ .current) = l :=
  List.filter_eq_self.2 fun c hc ↦ by simpa using ne_of_mem_of_not_mem hc h

/-- Inside of a longer path the stretches of a relative one stand for its components, but for a
leading `.`. -/
theorem filterMap_segments (h : p.isAbsolute = false) :
    (segments p).filterMap inner? = p.components.filter (· ≠ .current) := by
  have hkeep (l : List String) :
      (l.filterMap inner?).filter (· ≠ .current) = l.filterMap inner? :=
    filter_current (current_not_mem_inner l)
  obtain ⟨hp, -⟩ | ⟨-, rest, hs, hc⟩ | ⟨-, -, hc⟩ := p.components_cases
  · rw [h] at hp
    cases hp
  · rw [hs, hc, List.filterMap_cons, inner?_of_skips rfl, List.filter_cons_of_neg (by simp), hkeep]
  · rw [hc, hkeep]

section Strip

theorem trimStart_dropComponents (l m : List Piece) :
    trimStart (dropComponents (l.filterMap (·.component)).length (l ++ m)) = trimStart m := by
  induction l with
  | nil => rw [List.filterMap_nil, List.length_nil, dropComponents, List.nil_append]
  | cons piece l ih =>
    cases hc : piece.component with
    | some c =>
      rw [List.filterMap_cons_some hc, List.length_cons, List.cons_append, dropComponents, hc,
        Option.isSome_some, if_pos rfl, ih]
    | none =>
      rw [List.filterMap_cons_none hc, List.cons_append]
      cases hn : (l.filterMap (·.component)).length with
      | zero =>
        rw [hn, dropComponents] at ih
        rw [dropComponents, trimStart, List.dropWhile_cons_of_pos (by simp [hc])]
        exact ih
      | succ n =>
        rw [hn] at ih
        rw [dropComponents, hc, Option.isSome_none, if_neg Bool.false_ne_true, ih]

theorem startsWith_iff : p.startsWith base = true ↔ base.components <+: p.components :=
  List.isPrefixOf_iff_prefix

theorem strip?_of_pieces {l m : List Piece} (hp : p.pieces = l ++ m)
    (hl : l.filterMap (·.component) = base.components) :
    p.strip? base = some (ofPieces (trimEnd (trimStart m))) := by
  have hstarts : p.startsWith base = true := by
    have hcomponents : p.components = base.components ++ m.filterMap (·.component) := by
      rw [← hl, ← List.filterMap_append, ← hp, components]
    rw [startsWith_iff, hcomponents]
    exact List.prefix_append _ _
  rw [strip?, if_pos hstarts, hp, ← hl, trimStart_dropComponents]

def trimmed (names : List String) : List String := (names.dropWhile skips).rdropWhile skips

theorem ofText_isNone (s : String) : (Piece.ofText s).component.isNone = skips s := by
  cases hs : skips s with
  | true => rw [ofText_of_skips hs, Option.isNone_none]
  | false => simpa using ofText_of_not_skips hs

theorem trim_ofText (names : List String) :
    trimEnd (trimStart (names.map Piece.ofText)) = (trimmed names).map Piece.ofText := by
  have hskips : (fun piece : Piece ↦ piece.component.isNone) ∘ Piece.ofText = skips :=
    funext ofText_isNone
  have hstart (l : List String) :
      (l.map Piece.ofText).dropWhile (·.component.isNone) =
        (l.dropWhile skips).map Piece.ofText := by
    rw [List.dropWhile_map, hskips]
  simp only [trimEnd, trimStart, trimmed, List.rdropWhile, hstart, ← List.map_reverse]

theorem ofPieces_ofText (names : List String) :
    ofPieces (names.map Piece.ofText) = ⟨"/".intercalate names⟩ := by
  have htexts : (names.map Piece.ofText).map (·.text) = names := by simp [Function.comp_def]
  unfold ofPieces
  split
  · next s hs =>
    have hroot : Component.root ∈ names.filterMap inner? := by
      rw [← filterMap_ofText, hs]
      exact List.mem_singleton.2 rfl
    exact absurd hroot (root_not_mem_inner names)
  · rw [htexts]

theorem filterMap_trimmed (names : List String) :
    (trimmed names).filterMap inner? = names.filterMap inner? := by
  have hstart (l : List String) : (l.dropWhile skips).filterMap inner? = l.filterMap inner? := by
    induction l with
    | nil => rfl
    | cons s l ih =>
      cases hs : skips s with
      | true =>
        rw [List.dropWhile_cons_of_pos hs, ih, List.filterMap_cons_none (inner?_of_skips hs)]
      | false => rw [List.dropWhile_cons_of_neg (by simp [hs])]
  rw [trimmed, List.rdropWhile, List.filterMap_reverse, hstart, ← List.filterMap_reverse,
    List.reverse_reverse, hstart]

theorem trimmed_subset (names : List String) : trimmed names ⊆ names := fun _ hs ↦
  (List.dropWhile_sublist skips).subset ((List.rdropWhile_prefix skips _).subset hs)

theorem skips_head_trimmed {names rest : List String} {first : String}
    (h : trimmed names = first :: rest) : skips first = false := by
  have hprefix : first :: rest <+: names.dropWhile skips := h ▸ List.rdropWhile_prefix skips _
  obtain ⟨more, hmore⟩ := hprefix
  have hhead := List.head?_dropWhile_not skips names
  rw [← hmore] at hhead
  simpa using hhead

theorem trimmed_of_names (h : ∀ s ∈ names, IsName s) : trimmed names = names := by
  have hstart : names.dropWhile skips = names := by
    cases names with
    | nil => rfl
    | cons s rest => rw [List.dropWhile_cons_of_neg (by simp [(h s List.mem_cons_self).not_skips])]
  rw [trimmed, hstart, List.rdropWhile_eq_self_iff]
  intro hne
  simp [(h _ (List.getLast_mem hne)).not_skips]

theorem components_intercalate (hslash : ∀ s ∈ names, '/' ∉ s.toList)
    (hhead : ∀ first rest, names = first :: rest → skips first = false) :
    (Path.mk ("/".intercalate names)).components = names.filterMap inner? := by
  cases names with
  | nil => rfl
  | cons first rest =>
    have hs := segments_intercalate (List.cons_ne_nil first rest) hslash
    have hfirst := hhead first rest rfl
    obtain ⟨-, _, hs', -⟩ | ⟨-, _, hs', -⟩ | ⟨-, -, hc⟩ :=
      (Path.mk ("/".intercalate (first :: rest))).components_cases
    · cases hs.symm.trans hs'
      cases hfirst
    · cases hs.symm.trans hs'
      cases hfirst
    · rw [hc, hs]

theorem components_trimmed (hslash : ∀ s ∈ names, '/' ∉ s.toList) :
    (Path.mk ("/".intercalate (trimmed names))).components = names.filterMap inner? := by
  rw [components_intercalate (fun s hs ↦ hslash s (trimmed_subset names hs))
    (fun _ _ h ↦ skips_head_trimmed h), filterMap_trimmed]

theorem strip?_cases (h : p.startsWith base = true) (hbase : base.components ≠ []) :
    ∃ names, p.strip? base = some ⟨"/".intercalate (trimmed names)⟩ ∧
      (∀ s ∈ names, '/' ∉ s.toList) ∧ p.components = base.components ++ names.filterMap inner? := by
  obtain ⟨more, hmore⟩ := startsWith_iff.1 h
  obtain ⟨l, m, hp, hl, hm⟩ := List.filterMap_eq_append_iff.1 hmore.symm
  -- The first stretch, which is read in its own way, belongs to what is stripped off.
  have hsuffix : ∃ names : List String,
      m = names.map Piece.ofText ∧ ∀ s ∈ names, '/' ∉ s.toList := by
    cases hs : segments p with
    | nil => exact absurd hs (segments_ne_nil p)
    | cons first rest =>
      rw [pieces_of_segments hs] at hp
      cases l with
      | nil => exact absurd hl.symm hbase
      | cons piece l =>
        rw [List.cons_append, List.cons.injEq] at hp
        obtain ⟨front, names, hrest, -, hnames⟩ := List.map_eq_append_iff.1 hp.2
        refine ⟨names, hnames.symm, fun s hmem ↦ not_mem_of_mem_segments (p := p) ?_⟩
        rw [hs, hrest]
        exact List.mem_cons_of_mem _ (List.mem_append_right _ hmem)
  obtain ⟨names, rfl, hslash⟩ := hsuffix
  rw [filterMap_ofText] at hm
  refine ⟨names, ?_, hslash, by rw [← hmore, hm]⟩
  rw [strip?_of_pieces hp hl, trim_ofText, ofPieces_ofText]

end Strip

section Normalize

theorem components_current : (Path.mk ".").components = [.current] := rfl

def dropCurrent : List Component → List Component
  | .current :: c :: rest => c :: rest
  | components => components

theorem dropCurrent_append {l m : List Component} (hne : l ≠ []) (hl : l ≠ [.current]) :
    dropCurrent (l ++ m) = dropCurrent l ++ m := by
  rcases l with _ | ⟨c, _ | ⟨d, rest⟩⟩
  · exact absurd rfl hne
  · cases c <;> simp_all [dropCurrent]
  · cases c <;> rfl

theorem dropCurrent_eq_filter (hp : p.components ≠ [.current]) :
    dropCurrent p.components = p.components.filter (· ≠ .current) := by
  have htail := p.current_not_mem_tail
  generalize p.components = l at hp htail
  rcases l with _ | ⟨c, _ | ⟨d, rest⟩⟩
  · rfl
  · cases c <;> simp_all [dropCurrent]
  · rw [List.tail_cons] at htail
    cases c with
    | current => rw [dropCurrent, List.filter_cons_of_neg (by simp), filter_current htail]
    | _ => rw [dropCurrent, List.filter_cons_of_pos (by simp), filter_current htail]; simp

theorem normalize_of_head (h : ∀ rest, p.components ≠ .current :: rest) : p.normalize = p := by
  have hstarts : p.startsWith ⟨"."⟩ = false := by
    rw [← Bool.not_eq_true, startsWith_iff, components_current]
    rintro ⟨rest, hrest⟩
    exact h rest hrest.symm
  simp [normalize, strip?, hstarts]

theorem normalize_of_isAbsolute (h : p.isAbsolute = true) : p.normalize = p := by
  refine normalize_of_head fun rest hc ↦ ?_
  obtain ⟨-, _, -, hc'⟩ | ⟨hp, -⟩ | ⟨hp, -⟩ := p.components_cases
  · cases hc.symm.trans hc'
  · rw [h] at hp
    cases hp
  · rw [h] at hp
    cases hp

theorem normalize_of_current {rest : List Component} (h : p.components = .current :: rest) :
    ∃ names, (∀ s ∈ names, '/' ∉ s.toList) ∧ rest = names.filterMap inner? ∧
      p.normalize = if rest = [] then p else ⟨"/".intercalate (trimmed names)⟩ := by
  have hstarts : p.startsWith ⟨"."⟩ = true := by
    rw [startsWith_iff, components_current, h]
    exact ⟨rest, rfl⟩
  obtain ⟨names, hstrip, hslash, hcomponents⟩ := strip?_cases hstarts (by simp [components_current])
  have hrest : rest = names.filterMap inner? := by
    rw [h, components_current] at hcomponents
    exact (List.cons.inj hcomponents).2
  refine ⟨names, hslash, hrest, ?_⟩
  have hempty : "/".intercalate (trimmed names) = "" ↔ rest = [] := by
    rw [← components_eq_nil_iff (p := ⟨"/".intercalate (trimmed names)⟩),
      components_trimmed hslash, ← hrest]
  simp only [normalize, hstrip, hempty]

theorem components_normalize (p : Path) : p.normalize.components = dropCurrent p.components := by
  by_cases hhead : ∃ rest, p.components = .current :: rest
  · obtain ⟨rest, hc⟩ := hhead
    obtain ⟨names, hslash, hrest, hn⟩ := normalize_of_current hc
    cases rest with
    | nil => rw [hn, if_pos rfl, hc, dropCurrent]; simp
    | cons c more =>
      rw [hn, if_neg (List.cons_ne_nil c more), components_trimmed hslash, ← hrest, hc, dropCurrent]
  · rw [not_exists] at hhead
    rw [normalize_of_head hhead]
    unfold dropCurrent
    split
    · next c rest hc => exact absurd hc (hhead _)
    · rfl

theorem fileName?_normalize (p : Path) : p.normalize.fileName? = p.fileName? := by
  have hlast : (dropCurrent p.components).getLast? = p.components.getLast? := by
    unfold dropCurrent
    split
    · next c rest hc => rw [hc, List.getLast?_cons_cons]
    · rfl
  rw [fileName?, components_normalize, hlast, fileName?]

theorem current_not_head_normalize {rest : List Component}
    (h : p.normalize.components = .current :: rest) : rest = [] := by
  rw [components_normalize] at h
  have htail := p.current_not_mem_tail
  unfold dropCurrent at h
  split at h
  · next c more hc =>
    rw [hc, List.tail_cons, h] at htail
    exact absurd List.mem_cons_self htail
  · next hne =>
    cases rest with
    | nil => rfl
    | cons c more => exact absurd h (hne c more)

@[simp]
theorem normalize_normalize (p : Path) : p.normalize.normalize = p.normalize := by
  by_cases hhead : ∃ rest, p.normalize.components = .current :: rest
  · obtain ⟨rest, hc⟩ := hhead
    obtain ⟨names, -, -, hn⟩ := normalize_of_current hc
    rw [hn, if_pos (current_not_head_normalize hc)]
  · rw [not_exists] at hhead
    exact normalize_of_head hhead

end Normalize

section Join

theorem join_of_isAbsolute (h : q.isAbsolute = true) : p.join q = q := by simp [join, h]

theorem join_current (h : q.isAbsolute = false) :
    (Path.mk ".").join q = ⟨"." ++ "/" ++ q.text⟩ := by
  have hend : (String.endsWith "." "/") = false := by
    rw [← Bool.not_eq_true, endsWith_slash_iff]
    decide
  simp [join, h, hend]

/-- A path that is seen from a directory goes on where the directory ends; a slash at the end of the
directory takes the place of the one between the two. -/
theorem segments_join_directory (hp : p.text ≠ "") (hq : q.isAbsolute = false) :
    ∃ front, segments (p.join q) = front ++ segments q ∧
      (segments p = front ∨ segments p = front ++ [""]) := by
  by_cases hend : p.text.endsWith "/" = true
  · obtain ⟨front, hfront⟩ := endsWith_slash_iff.1 hend
    have htext : p.text = String.ofList front ++ "/" := by
      rw [← String.toList_inj]
      simpa using hfront.symm
    refine ⟨segments ⟨String.ofList front⟩, ?_, .inr ?_⟩
    · have hjoin : p.join q = ⟨p.text ++ q.text⟩ := by simp [join, hq, hend]
      rw [hjoin, htext, segments_append_slash]
    · have hs := segments_append_slash (String.ofList front) ""
      rw [String.append_empty, ← htext] at hs
      exact hs
  · refine ⟨segments p, ?_, .inl rfl⟩
    have hjoin : p.join q = ⟨p.text ++ "/" ++ q.text⟩ := by simp [join, hq, hend, hp]
    rw [hjoin, segments_append_slash]

theorem pieces_join (hp : p.text ≠ "") (hq : q.isAbsolute = false) :
    ∃ l, (p.join q).pieces = l ++ (segments q).map Piece.ofText ∧
      l.filterMap (·.component) = p.components := by
  obtain ⟨front, hjoin, hfront⟩ := segments_join_directory hp hq
  cases front with
  | nil =>
    obtain h | h := hfront
    · exact absurd h (segments_ne_nil p)
    · exact absurd (by rw [← intercalate_segments p, h]; rfl) hp
  | cons first rest =>
    have hmore : (!(rest ++ segments q).isEmpty) = true := by simp [segments_ne_nil]
    rw [List.cons_append] at hjoin hfront
    refine ⟨Piece.ofFirst first true :: rest.map Piece.ofText, ?_, ?_⟩
    · rw [pieces_of_segments hjoin, hmore, List.map_append, List.cons_append]
    · obtain h | h := hfront
      · have hfirst : Piece.ofFirst first true = Piece.ofFirst first (!rest.isEmpty) := by
          cases rest with
          | cons _ _ => rfl
          | nil =>
            have hne : first ≠ "" := by
              rintro rfl
              exact hp (by rw [← intercalate_segments p, h]; rfl)
            simp [Piece.ofFirst, hne]
        rw [components, pieces_of_segments h, hfirst]
      · have hmore' : (!(rest ++ [""]).isEmpty) = true := by simp
        have hempty : (Piece.ofText "").component = none := rfl
        rw [components, pieces_of_segments h, hmore', List.map_append, ← List.cons_append,
          List.filterMap_append]
        simp [hempty]

theorem components_join (hp : p.text ≠ "") (hq : q.isAbsolute = false) :
    (p.join q).components = p.components ++ q.components.filter (· ≠ .current) := by
  obtain ⟨l, hpieces, hl⟩ := pieces_join hp hq
  rw [components, hpieces, List.filterMap_append, hl, filterMap_ofText, filterMap_segments hq]

end Join

end Path

end LintEngine
