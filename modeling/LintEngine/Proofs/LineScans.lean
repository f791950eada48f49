import LintEngine.Linter.Line
import LintEngine.Proofs.Encoding
import LintEngine.Proofs.Related
import Mathlib.Algebra.Group.Nat.Defs
import Mathlib.Data.List.Count

namespace LintEngine

/-- A finding about a single place, with its line and its column counted from one. -/
structure Finding.IsAt (f : Finding) (line column : ℕ) : Prop where
  line_eq : f.range.first.line.toNat = line
  column_eq : f.range.first.column.toNat = column
  single : f.range.last = f.range.first

/-- The lines of a document and the characters of each of them can be counted in 32 bits. -/
structure Document.Countable (document : Document) : Prop where
  lines_lt : document.lines.length < 2 ^ 32
  length_lt : ∀ line ∈ document.lines, line.length < 2 ^ 32

theorem toNat_ofNat_add_one {n : ℕ} (h : n + 1 < 2 ^ 32) : (UInt32.ofNat n + 1).toNat = n + 1 := by
  have hn : (UInt32.ofNat n).toNat = n := UInt32.toNat_ofNat_of_lt' (Nat.lt_of_succ_lt h)
  rw [UInt32.toNat_add, hn]
  exact Nat.mod_eq_of_lt h

theorem Finding.isAt_single {index place : ℕ} (hindex : index + 1 < 2 ^ 32)
    (hplace : place + 1 < 2 ^ 32) (message : String) :
    (Finding.mk (.single (UInt32.ofNat index + 1) (UInt32.ofNat place + 1)) message).IsAt
      (index + 1) (place + 1) :=
  ⟨toNat_ofNat_add_one hindex, toNat_ofNat_add_one hplace, rfl⟩

def itemsByLine {β : Type} (items : String → List β) (lines : List String) : List (ℕ × β) :=
  lines.zipIdx.flatMap fun x ↦ (items x.1).map (x.2, ·)

section Items

variable {β : Type} {items : String → List β} {lines : List String}

theorem mem_itemsByLine {x : ℕ × β} :
    x ∈ itemsByLine items lines ↔ ∃ line, lines[x.1]? = some line ∧ x.2 ∈ items line := by
  obtain ⟨index, b⟩ := x
  simp only [itemsByLine, List.mem_flatMap, List.mem_map, Prod.exists, Prod.mk.injEq]
  constructor
  · rintro ⟨line, i, hline, b', hb, rfl, rfl⟩
    exact ⟨line, List.mk_mem_zipIdx_iff_getElem?.1 hline, hb⟩
  · rintro ⟨line, hline, hb⟩
    exact ⟨line, index, List.mk_mem_zipIdx_iff_getElem?.2 hline, b, hb, rfl, rfl⟩

theorem count_flatMap_zipIdx [DecidableEq β] {index : ℕ} {line : String}
    (h : lines[index]? = some line) (b : β) (start : ℕ) :
    ((lines.zipIdx start).flatMap fun x ↦ (items x.1).map (x.2, ·)).count (start + index, b) =
      (items line).count b := by
  induction lines generalizing index start with
  | nil => cases h
  | cons first lines ih =>
    rw [List.zipIdx_cons, List.flatMap_cons, List.count_append]
    cases index with
    | zero =>
      have hrest : (start, b) ∉ (lines.zipIdx (start + 1)).flatMap fun x ↦
          (items x.1).map (x.2, ·) := by
        intro hmem
        obtain ⟨x, hx, hb⟩ := List.mem_flatMap.1 hmem
        obtain ⟨c, -, hc⟩ := List.mem_map.1 hb
        have hle := List.le_snd_of_mem_zipIdx hx
        have hstart : x.2 = start := congrArg Prod.fst hc
        omega
      cases h
      rw [Nat.add_zero, List.count_eq_zero_of_not_mem hrest, Nat.add_zero]
      exact List.count_map_of_injective _ _ (Prod.mk_right_injective start) b
    | succ index =>
      have hfirst : (start + (index + 1), b) ∉ (items first).map (start, ·) := by
        intro hmem
        obtain ⟨c, -, hc⟩ := List.mem_map.1 hmem
        have hstart : start = start + (index + 1) := congrArg Prod.fst hc
        omega
      rw [List.count_eq_zero_of_not_mem hfirst, Nat.zero_add, ← ih h (start + 1)]
      congr 2
      omega

theorem count_itemsByLine [DecidableEq β] {index : ℕ} {line : String}
    (h : lines[index]? = some line) (b : β) :
    (itemsByLine items lines).count (index, b) = (items line).count b := by
  rw [itemsByLine, ← count_flatMap_zipIdx h b 0, Nat.zero_add]

theorem pairwise_itemsByLine {R : ℕ × β → ℕ × β → Prop}
    (hlt : ∀ x y : ℕ × β, x.1 < y.1 → R x y)
    (hline : ∀ line ∈ lines, ∀ index, (items line).Pairwise fun b c ↦ R (index, b) (index, c)) :
    (itemsByLine items lines).Pairwise R := by
  rw [itemsByLine, List.pairwise_flatMap]
  constructor
  · intro x hx
    have hmem : x.1 ∈ lines := List.fst_mem_of_mem_zipIdx hx
    exact List.pairwise_map.2 (hline x.1 hmem x.2)
  · refine (pairwise_zipIdx lines 0).imp ?_
    intro x y hxy a ha b hb
    obtain ⟨c, -, rfl⟩ := List.mem_map.1 ha
    obtain ⟨d, -, rfl⟩ := List.mem_map.1 hb
    exact hlt _ _ hxy

end Items

namespace Scan

variable {β : Type} {remarks : String → List Remark} {items : String → List β} {place : β → ℕ}
  {message : β → String} {document : Document}

theorem foldr_andThen_found (findings : List Finding) :
    (findings.map fun f ↦ found [f]).foldr andThen quiet = found findings := by
  induction findings with
  | nil => rfl
  | cons f findings ih =>
    rw [List.map_cons, List.foldr_cons, ih]
    rfl

theorem byLine_eq (h : ∀ line ∈ document.lines, remarks line =
      (items line).map fun b ↦ ⟨some (UInt32.ofNat (place b) + 1), message b⟩) :
    byLine remarks document = found ((itemsByLine items document.lines).map fun x ↦
      ⟨.single (UInt32.ofNat x.1 + 1) (UInt32.ofNat (place x.2) + 1), message x.2⟩) := by
  rw [← foldr_andThen_found, byLine, itemsByLine, List.map_flatMap, List.map_flatMap]
  congr 1
  refine List.flatMap_congr ?_
  intro x hx
  rw [h x.1 (List.fst_mem_of_mem_zipIdx hx), List.map_map, List.map_map, List.map_map]
  rfl

theorem forall₂_byLine (h : ∀ line ∈ document.lines, remarks line =
      (items line).map fun b ↦ ⟨some (UInt32.ofNat (place b) + 1), message b⟩)
    (hplace : ∀ line ∈ document.lines, ∀ b ∈ items line, place b < line.length)
    (hcountable : document.Countable) :
    (byLine remarks document).ending = .done ∧
    List.Forall₂ (fun f x ↦ f.IsAt (x.1 + 1) (place x.2 + 1) ∧ f.message = message x.2)
      (byLine remarks document).findings (itemsByLine items document.lines) := by
  rw [byLine_eq h]
  refine ⟨rfl, List.forall₂_map_left_iff.2 (List.forall₂_same.2 ?_)⟩
  intro x hx
  obtain ⟨line, hline, hb⟩ := mem_itemsByLine.1 hx
  obtain ⟨hindex, -⟩ := List.getElem?_eq_some_iff.1 hline
  have hmem : line ∈ document.lines := List.mem_of_getElem? hline
  have hlines := hcountable.lines_lt
  have hlength := hcountable.length_lt line hmem
  have hlt := hplace line hmem x.2 hb
  exact ⟨Finding.isAt_single (by omega) (by omega) _, rfl⟩

end Scan

end LintEngine
