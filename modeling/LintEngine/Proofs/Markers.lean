import LintEngine.Linter.NoTodo
import LintEngine.Proofs.LineScans
import LintEngine.Proofs.LintOrder

namespace LintEngine.NoTodo

section Search

def Occurs {α : Type} (keyword text : List α) (place : ℕ) : Prop := keyword <+: text.drop place

/-- Places that are chosen from left to right, each as soon as the one before it has ended. -/
structure Leftmost (occurs : ℕ → Prop) (size : ℕ) (places : List ℕ) : Prop where
  stands : ∀ p ∈ places, occurs p
  apart : places.Pairwise fun p q ↦ p + size ≤ q
  covers : ∀ p, occurs p → ∃ q ∈ places, q ≤ p ∧ p < q + size

variable {α : Type} {occurs occurs' : ℕ → Prop} {size : ℕ} {places : List ℕ}

theorem Leftmost.congr (h : Leftmost occurs size places) (hiff : ∀ p, occurs' p ↔ occurs p) :
    Leftmost occurs' size places := by
  have heq : occurs' = occurs := funext fun p ↦ propext (hiff p)
  rwa [heq]

theorem Leftmost.cons {first : ℕ} (hfirst : occurs first)
    (hle : ∀ p, occurs p → first ≤ p)
    (h : Leftmost (fun p ↦ first + size ≤ p ∧ occurs p) size places) :
    Leftmost occurs size (first :: places) where
  stands p hp := by
    rcases List.mem_cons.1 hp with rfl | hp
    · exact hfirst
    · exact (h.stands p hp).2
  apart := List.pairwise_cons.2 ⟨fun p hp ↦ (h.stands p hp).1, h.apart⟩
  covers p hp := by
    by_cases hend : p < first + size
    · exact ⟨first, List.mem_cons_self, hle p hp, hend⟩
    · obtain ⟨q, hq, hqp⟩ := h.covers p ⟨not_lt.1 hend, hp⟩
      exact ⟨q, List.mem_cons_of_mem _ hq, hqp⟩

theorem Leftmost.nodup (h : Leftmost occurs size places) (hsize : 0 < size) : places.Nodup := by
  refine h.apart.imp ?_
  intro p q hpq
  omega

theorem occurs_cons_iff {keyword rest : List α} {offset p : ℕ} (a : α) (h : offset + 1 ≤ p) :
    Occurs keyword (a :: rest) (p - offset) ↔ Occurs keyword rest (p - (offset + 1)) := by
  obtain ⟨n, rfl⟩ := Nat.exists_eq_add_of_le h
  have hn : offset + 1 + n - offset = n + 1 := by omega
  rw [Occurs, Occurs, hn, List.drop_succ_cons, Nat.add_sub_cancel_left]

/-- The rest of the search finds the occurrences that start after those bytes that it skips. -/
theorem leftmost_occurrencesFrom {keyword : List UInt8} (hkeyword : 0 < keyword.length)
    (offset skip : ℕ) (bytes : List UInt8) :
    Leftmost (fun p ↦ offset + skip ≤ p ∧ Occurs keyword bytes (p - offset)) keyword.length
      (occurrencesFrom keyword offset skip bytes) := by
  fun_induction occurrencesFrom keyword offset skip bytes with
  | case1 offset skip =>
    refine ⟨by simp, .nil, ?_⟩
    rintro p ⟨-, hp⟩
    have hlength := hp.length_le
    rw [List.drop_nil, List.length_nil] at hlength
    omega
  | case2 offset b rest skip ih =>
    have hstart : offset + (skip + 1) = offset + 1 + skip := by omega
    refine ih.congr fun p ↦ ?_
    rw [hstart]
    exact and_congr_right fun hle ↦ occurs_cons_iff b (by omega)
  | case3 offset b rest hprefix ih =>
    refine .cons ⟨le_rfl, ?_⟩ (fun p hp ↦ hp.1) (ih.congr fun p ↦ ?_)
    · rw [Nat.sub_self]
      exact List.isPrefixOf_iff_prefix.1 hprefix
    · constructor
      · rintro ⟨hle, -, hp⟩
        exact ⟨by omega, (occurs_cons_iff b (by omega)).1 hp⟩
      · rintro ⟨hle, hp⟩
        exact ⟨by omega, by omega, (occurs_cons_iff b (by omega)).2 hp⟩
  | case4 offset b rest hprefix ih =>
    refine ih.congr fun p ↦ ?_
    constructor
    · rintro ⟨hle, hp⟩
      -- Nothing starts at the byte that is left behind.
      have hne : p ≠ offset := by
        rintro rfl
        rw [Nat.sub_self] at hp
        exact hprefix (List.isPrefixOf_iff_prefix.2 hp)
      exact ⟨by omega, (occurs_cons_iff b (by omega)).1 hp⟩
    · rintro ⟨hle, hp⟩
      exact ⟨by omega, (occurs_cons_iff b (by omega)).2 hp⟩

end Search

section Characters

variable {keyword line : String} {n offset : ℕ}

theorem length_pos (h : keyword ≠ "") : 0 < keyword.length := by
  rw [Nat.pos_iff_ne_zero, ne_eq, String.length_eq_zero_iff]
  exact h

theorem length_toUTF8_pos (h : keyword ≠ "") : 0 < keyword.toUTF8.toList.length := by
  rw [Text.length_toUTF8, Nat.pos_iff_ne_zero, ne_eq, String.utf8ByteSize_eq_zero_iff]
  exact h

theorem Occurs.le (h : Occurs keyword.toList line.toList n) (hkeyword : keyword ≠ "") :
    n + keyword.length ≤ line.toList.length := by
  have hlength := h.length_le
  have hpos := length_pos hkeyword
  rw [List.length_drop, String.length_toList] at hlength
  omega

theorem Occurs.byteOffset_add (h : Occurs keyword.toList line.toList n) :
    Text.byteOffset line.toList (n + keyword.length) =
      Text.byteOffset line.toList n + keyword.toUTF8.toList.length := by
  obtain ⟨rest, hrest⟩ := h
  have htake : (line.toList.drop n).take keyword.length = keyword.toList := by
    rw [← hrest, ← String.length_toList, List.take_left]
  rw [Text.byteOffset, List.take_add, htake, List.flatMap_append, List.length_append,
    Text.toList_toUTF8, Text.byteOffset]

theorem occurs_toUTF8_iff (hkeyword : keyword ≠ "") :
    Occurs keyword.toUTF8.toList line.toUTF8.toList offset ↔
      ∃ n, Occurs keyword.toList line.toList n ∧ Text.byteOffset line.toList n = offset := by
  constructor
  · rintro ⟨rest, hrest⟩
    have hbytes : line.toUTF8.toList =
        line.toUTF8.toList.take offset ++ (keyword.toUTF8.toList ++ rest) := by
      rw [hrest, List.take_append_drop]
    have hoffset : offset ≤ line.toUTF8.toList.length := by
      have hlength := congrArg List.length hrest
      have hpos := length_toUTF8_pos hkeyword
      rw [List.length_append, List.length_drop] at hlength
      omega
    obtain ⟨first, more, hline, hfirst, -⟩ := Text.exists_of_toUTF8_append hkeyword hbytes
    refine ⟨first.length, ⟨more, ?_⟩, ?_⟩
    · rw [hline, List.drop_left]
    · rw [Text.byteOffset, hline, List.take_left, ← hfirst, List.length_take,
        Nat.min_eq_left hoffset]
  · rintro ⟨n, ⟨rest, hrest⟩, rfl⟩
    refine ⟨rest.flatMap String.utf8EncodeChar, ?_⟩
    have hbytes : line.toUTF8.toList = (line.toList.take n).flatMap String.utf8EncodeChar ++
        (line.toList.drop n).flatMap String.utf8EncodeChar := by
      rw [← List.flatMap_append, List.take_append_drop, Text.toList_toUTF8]
    rw [hbytes, Text.byteOffset, List.drop_left, ← hrest, List.flatMap_append, Text.toList_toUTF8]

def placeOf (line : String) (offset : ℕ) : ℕ := (Text.charactersBefore? offset line.toList).getD 0

theorem placeOf_byteOffset (h : n ≤ line.toList.length) :
    placeOf line (Text.byteOffset line.toList n) = n := by
  rw [placeOf, Text.charactersBefore?_eq_some.2 ⟨h, rfl⟩, Option.getD_some]

def places (keyword line : String) : List ℕ := (occurrences keyword line).map (placeOf line)

theorem leftmost_occurrences (hkeyword : keyword ≠ "") :
    Leftmost (Occurs keyword.toUTF8.toList line.toUTF8.toList) keyword.toUTF8.toList.length
      (occurrences keyword line) := by
  refine (leftmost_occurrencesFrom (length_toUTF8_pos hkeyword) 0 0 _).congr fun p ↦ ?_
  simp

theorem exists_of_mem_occurrences (hkeyword : keyword ≠ "")
    (h : offset ∈ occurrences keyword line) :
    ∃ n, Occurs keyword.toList line.toList n ∧ Text.byteOffset line.toList n = offset ∧
      placeOf line offset = n := by
  obtain ⟨n, hn, rfl⟩ := (occurs_toUTF8_iff hkeyword).1 ((leftmost_occurrences hkeyword).stands _ h)
  have hle := hn.le hkeyword
  exact ⟨n, hn, rfl, placeOf_byteOffset (by omega)⟩

/-- Bytes and characters are in the same order, and an occurrence ends at the same place in both. So
the places are the leftmost ones in characters as well. -/
theorem leftmost_places (keyword line : String) (hkeyword : keyword ≠ "") :
    Leftmost (Occurs keyword.toList line.toList) keyword.length (places keyword line) where
  stands p hp := by
    obtain ⟨offset, hoffset, rfl⟩ := List.mem_map.1 hp
    obtain ⟨n, hn, -, hplace⟩ := exists_of_mem_occurrences hkeyword hoffset
    rwa [hplace]
  apart := by
    refine List.pairwise_map.2 ((leftmost_occurrences hkeyword).apart.imp_of_mem ?_)
    intro offset next hoffset hnext hle
    obtain ⟨m, hm, rfl, hplace⟩ := exists_of_mem_occurrences hkeyword hoffset
    obtain ⟨n, hn, rfl, hplace'⟩ := exists_of_mem_occurrences hkeyword hnext
    rw [hplace, hplace']
    by_contra hlt
    have hoverlap := Text.byteOffset_lt (not_le.1 hlt) (hm.le hkeyword)
    rw [hm.byteOffset_add] at hoverlap
    omega
  covers p hp := by
    obtain ⟨offset, hoffset, hle, hlt⟩ :=
      (leftmost_occurrences hkeyword).covers _ ((occurs_toUTF8_iff hkeyword).2 ⟨p, hp, rfl⟩)
    obtain ⟨n, hn, rfl, hplace⟩ := exists_of_mem_occurrences hkeyword hoffset
    have hnlength := hn.le hkeyword
    have hplength := hp.le hkeyword
    refine ⟨n, List.mem_map.2 ⟨_, hoffset, hplace⟩, ?_, ?_⟩
    · by_contra hpn
      have hbefore := Text.byteOffset_lt (not_le.1 hpn) (by omega : n ≤ line.toList.length)
      omega
    · rw [← hn.byteOffset_add] at hlt
      exact (Text.byteOffset_lt_iff (by omega) hnlength).1 hlt

end Characters

section Spots

/-- A keyword at a character of a line. -/
structure Spot where
  place : ℕ
  keyword : String
deriving DecidableEq

def Spot.Before (a b : Spot) : Prop :=
  a.place < b.place ∨ a.place = b.place ∧ a.keyword.toUTF8.toList ≤ b.keyword.toUTF8.toList

def spots (keywords : List String) (line : String) : List Spot :=
  (markers keywords line).map fun m ↦ ⟨placeOf line m.offset, m.keyword⟩

variable {keywords : List String} {line : String}

theorem mem_markers {m : Marker} (h : m ∈ markers keywords line) :
    m.keyword ∈ keywords ∧ m.keyword ≠ "" ∧ m.offset ∈ occurrences m.keyword line := by
  obtain ⟨keyword, hkeyword, hm⟩ := List.mem_flatMap.1 (List.mem_mergeSort.1 h)
  obtain ⟨offset, hoffset, rfl⟩ := List.mem_map.1 hm
  rw [List.mem_filter, decide_eq_true_iff] at hkeyword
  exact ⟨hkeyword.1, hkeyword.2, hoffset⟩

theorem exists_of_mem_markers {m : Marker} (h : m ∈ markers keywords line) :
    ∃ n, n < line.length ∧ Text.byteOffset line.toList n = m.offset ∧
      placeOf line m.offset = n := by
  obtain ⟨-, hne, hoffset⟩ := mem_markers h
  obtain ⟨n, hn, hbyte, hplace⟩ := exists_of_mem_occurrences hne hoffset
  have hle := hn.le hne
  have hpos := length_pos hne
  rw [String.length_toList] at hle
  exact ⟨n, by omega, hbyte, hplace⟩

theorem mem_spots {s : Spot} (h : s ∈ spots keywords line) :
    s.keyword ∈ keywords ∧ s.keyword ≠ "" ∧ s.place < line.length := by
  obtain ⟨m, hm, rfl⟩ := List.mem_map.1 h
  obtain ⟨hlisted, hne, -⟩ := mem_markers hm
  obtain ⟨n, hn, -, hplace⟩ := exists_of_mem_markers hm
  exact ⟨hlisted, hne, hplace ▸ hn⟩

theorem remarks_eq (keywords : List String) (line : String) : remarks keywords line =
    (spots keywords line).map fun s ↦ ⟨some (UInt32.ofNat s.place + 1), message s.keyword⟩ := by
  rw [remarks, spots, List.map_map]
  refine List.map_congr_left ?_
  intro m hm
  obtain ⟨n, hn, hbyte, hplace⟩ := exists_of_mem_markers hm
  have hbefore : Text.charactersBefore? m.offset line.toList = some n := by
    rw [Text.charactersBefore?_eq_some, String.length_toList]
    exact ⟨hn.le, hbyte⟩
  rw [columnAt?, hbefore, Function.comp_apply, hplace]
  rfl

theorem count_flatMap_keywords (keywords : List String) (places : String → List ℕ) (place : ℕ)
    (keyword : String) :
    (keywords.flatMap fun k ↦ (places k).map (Spot.mk · k)).count ⟨place, keyword⟩ =
      keywords.count keyword * (places keyword).count place := by
  induction keywords with
  | nil => simp
  | cons first keywords ih =>
    rw [List.flatMap_cons, List.count_append, ih, List.count_cons]
    by_cases h : first = keyword
    · subst h
      have hinjective : Function.Injective (Spot.mk · first) := by
        intro a b hab
        exact congrArg Spot.place hab
      rw [List.count_map_of_injective _ _ hinjective, beq_self_eq_true, if_pos rfl, Nat.add_mul,
        Nat.one_mul, Nat.add_comm]
    · have hnot : (⟨place, keyword⟩ : Spot) ∉ (places first).map (Spot.mk · first) := by
        intro hmem
        obtain ⟨p, -, hp⟩ := List.mem_map.1 hmem
        exact h (congrArg Spot.keyword hp)
      rw [List.count_eq_zero_of_not_mem hnot, if_neg (by simpa using h), Nat.zero_add, Nat.add_zero]

theorem count_spots (keywords : List String) (line : String) (place : ℕ) {keyword : String}
    (hkeyword : keyword ≠ "") :
    (spots keywords line).count ⟨place, keyword⟩ =
      if place ∈ places keyword line then keywords.count keyword else 0 := by
  have hperm : (spots keywords line).Perm ((keywords.filter (· ≠ "")).flatMap fun k ↦
      (places k line).map (Spot.mk · k)) := by
    refine ((List.mergeSort_perm _ _).map _).trans (.of_eq ?_)
    rw [List.map_flatMap]
    simp only [places, List.map_map]
    rfl
  have hnodup := (leftmost_places keyword line hkeyword).nodup (length_pos hkeyword)
  rw [hperm.count_eq, count_flatMap_keywords, List.count_filter (by simpa using hkeyword),
    hnodup.count]
  split_ifs
  · exact Nat.mul_one _
  · exact Nat.mul_zero _

instance : Std.TransCmp Marker.compare :=
  inferInstanceAs (Std.TransCmp (compareLex (compareOn Marker.offset) (compareOn Marker.keyword)))

theorem pairwise_spots (keywords : List String) (line : String) :
    (spots keywords line).Pairwise Spot.Before := by
  have hsorted : (markers keywords line).Pairwise fun a b ↦ (a.compare b).isLE :=
    List.pairwise_mergeSort isLE_trans_of_cmp isLE_total_of_cmp _
  refine List.pairwise_map.2 (hsorted.imp_of_mem ?_)
  intro a b ha hb hab
  obtain ⟨m, hm, hbyte, hplace⟩ := exists_of_mem_markers ha
  obtain ⟨n, hn, hbyte', hplace'⟩ := exists_of_mem_markers hb
  rw [← String.length_toList] at hm hn
  rw [Marker.compare, Ordering.isLE_then_iff_or, compare_lt_iff_lt, compare_eq_iff_eq,
    Text.compare_isLE_iff] at hab
  rcases hab with hlt | ⟨heq, hle⟩
  · rw [← hbyte, ← hbyte', Text.byteOffset_lt_iff hm.le hn.le] at hlt
    left
    rwa [hplace, hplace']
  · right
    exact ⟨congrArg (placeOf line) heq, hle⟩

end Spots

section Reports

/-- Marks of keywords in lines, each with the index of its line: the leftmost occurrences of every
keyword, as often as it is listed, line by line and in order. -/
structure Marks (keywords lines : List String) (marks : List (ℕ × Spot)) : Prop where
  inside : ∀ m ∈ marks, m.1 < lines.length
  listed : ∀ m ∈ marks, m.2.keyword ∈ keywords ∧ m.2.keyword ≠ ""
  ordered : marks.Pairwise fun m n ↦ m.1 < n.1 ∨ m.1 = n.1 ∧ m.2.Before n.2
  counted : ∀ index line, lines[index]? = some line → ∀ keyword ≠ "", ∃ places,
    Leftmost (Occurs keyword.toList line.toList) keyword.length places ∧
    ∀ place, marks.count (index, ⟨place, keyword⟩) =
      if place ∈ places then keywords.count keyword else 0

theorem marks_itemsByLine (keywords lines : List String) :
    Marks keywords lines (itemsByLine (spots keywords) lines) where
  inside m hm := by
    obtain ⟨line, hline, -⟩ := mem_itemsByLine.1 hm
    exact (List.getElem?_eq_some_iff.1 hline).1
  listed m hm := by
    obtain ⟨line, -, hspot⟩ := mem_itemsByLine.1 hm
    obtain ⟨hlisted, hne, -⟩ := mem_spots hspot
    exact ⟨hlisted, hne⟩
  ordered := by
    refine pairwise_itemsByLine (fun x y h ↦ .inl h) ?_
    intro line _ index
    exact (pairwise_spots keywords line).imp fun h ↦ .inr ⟨rfl, h⟩
  counted index line hline keyword hkeyword := by
    refine ⟨places keyword line, leftmost_places keyword line hkeyword, fun place ↦ ?_⟩
    rw [count_itemsByLine hline, count_spots keywords line place hkeyword]

theorem message_injective : Function.Injective message := by
  intro a b h
  have hparts (k : String) : message k = "Found \x60" ++ k ++ "\x60 marker" := rfl
  rw [hparts, hparts, ← String.toList_inj, String.toList_append, String.toList_append,
    String.toList_append, String.toList_append] at h
  exact String.toList_inj.1 (List.append_cancel_left (List.append_cancel_right h))

/-- The findings tell of the leftmost occurrences of the keywords, and of nothing else. -/
theorem findings_are_marks (keywords : List String) (document : Document)
    (hcountable : document.Countable) :
    (scan keywords document).ending = .done ∧ Function.Injective message ∧
    ∃ marks, Marks keywords document.lines marks ∧
      List.Forall₂ (fun f m ↦ f.IsAt (m.1 + 1) (m.2.place + 1) ∧ f.message = message m.2.keyword)
        (scan keywords document).findings marks := by
  obtain ⟨hdone, hfindings⟩ := Scan.forall₂_byLine (fun line _ ↦ remarks_eq keywords line)
    (fun line _ s hs ↦ (mem_spots hs).2.2) hcountable
  exact ⟨hdone, message_injective, _, marks_itemsByLine keywords document.lines, hfindings⟩

def overlapping : Document := ⟨"aaaaa é\nébaaa", ["aaaaa é", "ébaaa"], none, none⟩

theorem findings_are_marks_overlapping :
    overlapping.Countable ∧
    (scan ["aa", "é", "", "aa"] overlapping).ending = .done ∧ Function.Injective message ∧
    ∃ marks, Marks ["aa", "é", "", "aa"] overlapping.lines marks ∧
      List.Forall₂ (fun f m ↦ f.IsAt (m.1 + 1) (m.2.place + 1) ∧ f.message = message m.2.keyword)
        (scan ["aa", "é", "", "aa"] overlapping).findings marks :=
  have hcountable : overlapping.Countable := ⟨by decide, by decide⟩
  ⟨hcountable, findings_are_marks _ overlapping hcountable⟩

end Reports

end LintEngine.NoTodo
