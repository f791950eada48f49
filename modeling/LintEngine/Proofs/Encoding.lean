import LintEngine.Text.Offset
import Mathlib.Data.String.Basic

namespace LintEngine.Text

section Bytes

theorem listing_bytes (bytes : ByteArray) (n i : ℕ) (h : i + n = bytes.size) :
    ByteArray.toList.loop bytes i (bytes.data.toList.take i).reverse = bytes.data.toList := by
  have hsize : bytes.data.toList.length = bytes.size := rfl
  induction n generalizing i with
  | zero =>
    rw [ByteArray.toList.loop, if_neg (by omega), List.reverse_reverse,
      List.take_of_length_le (by omega)]
  | succ n ih =>
    have hi : i < bytes.data.toList.length := by omega
    have hstep : (bytes.data.toList.take (i + 1)).reverse =
        bytes.get! i :: (bytes.data.toList.take i).reverse := by
      rw [List.take_succ_eq_append_getElem hi, List.reverse_append, List.reverse_singleton,
        List.singleton_append, ByteArray.get!, getElem!_pos bytes.data i hi, Array.getElem_toList]
    rw [ByteArray.toList.loop, if_pos (by omega), ← hstep]
    exact ih (i + 1) (by omega)

theorem toList_eq (bytes : ByteArray) : bytes.toList = bytes.data.toList :=
  listing_bytes bytes bytes.size 0 (Nat.zero_add _)

theorem toList_toUTF8 (s : String) : s.toUTF8.toList = s.toList.flatMap String.utf8EncodeChar := by
  rw [toList_eq, String.toUTF8_eq_toByteArray, ← String.utf8Encode_toList, List.utf8Encode,
    List.toList_data_toByteArray]

theorem length_toUTF8 (s : String) : s.toUTF8.toList.length = s.utf8ByteSize := by
  rw [toList_eq, String.toUTF8_eq_toByteArray, ← String.size_toByteArray]
  rfl

theorem utf8EncodeChar_append_inj {c d : Char} {x y : List UInt8}
    (h : String.utf8EncodeChar c ++ x = String.utf8EncodeChar d ++ y) : c = d ∧ x = y := by
  have hbytes (e : Char) (z : List UInt8) :
      (String.utf8EncodeChar e ++ z).toByteArray.utf8DecodeChar? 0 = some e := by
    rw [List.toByteArray_append]
    exact ByteArray.utf8DecodeChar?_utf8EncodeChar_append
  obtain rfl : c = d := by
    rw [← Option.some.injEq, ← hbytes c x, h, hbytes]
  exact ⟨rfl, List.append_cancel_left h⟩

theorem exists_of_flatMap_utf8EncodeChar {cs ds : List Char} {rest : List UInt8}
    (h : ds.flatMap String.utf8EncodeChar = cs.flatMap String.utf8EncodeChar ++ rest) :
    ∃ more, ds = cs ++ more ∧ rest = more.flatMap String.utf8EncodeChar := by
  induction cs generalizing ds with
  | nil => exact ⟨ds, rfl, h.symm⟩
  | cons c cs ih =>
    cases ds with
    | nil =>
      rw [List.flatMap_nil, List.flatMap_cons, List.append_assoc, eq_comm,
        List.append_eq_nil_iff] at h
      exact absurd h.1 String.utf8EncodeChar_ne_nil
    | cons d ds =>
      rw [List.flatMap_cons, List.flatMap_cons, List.append_assoc] at h
      obtain ⟨rfl, hrest⟩ := utf8EncodeChar_append_inj h
      obtain ⟨more, rfl, hmore⟩ := ih hrest
      exact ⟨more, rfl, hmore⟩

/-- Where the bytes of a text occur among those of another one, the text occurs in it. -/
theorem exists_of_toUTF8_append {s t : String} {front rest : List UInt8} (ht : t ≠ "")
    (h : s.toUTF8.toList = front ++ (t.toUTF8.toList ++ rest)) :
    ∃ first more : List Char, s.toList = first ++ (t.toList ++ more) ∧
      front = first.flatMap String.utf8EncodeChar ∧ rest = more.flatMap String.utf8EncodeChar := by
  have hbytes : s.toByteArray = front.toByteArray ++ (t.toByteArray ++ rest.toByteArray) := by
    refine ByteArray.ext (Array.toList_inj.1 ?_)
    simp only [toList_eq, String.toUTF8_eq_toByteArray] at h
    rw [ByteArray.toList_data_append, ByteArray.toList_data_append, List.toList_data_toByteArray,
      List.toList_data_toByteArray, h]
  have hsize : 0 < t.toByteArray.size := by
    simpa [Nat.pos_iff_ne_zero] using ht
  -- A character of the text starts where the bytes of the other one do.
  have hvalid : String.Pos.Raw.IsValid s ⟨front.length⟩ := by
    refine String.Pos.Raw.isValid_iff_isUTF8FirstByte.2 (.inr ⟨?_, ?_⟩)
    · rw [String.Pos.Raw.lt_iff, String.byteIdx_rawEndPos, ← String.size_toByteArray, hbytes]
      simp only [ByteArray.size_append, List.size_toByteArray]
      omega
    · have hfirst := t.isValidUTF8.isUTF8FirstByte_getElem_zero hsize
      simp only [String.getUTF8Byte, hbytes]
      rw [ByteArray.getElem_append_right (by simp),
        ByteArray.getElem_append_left (by simpa using hsize)]
      simpa using hfirst
  obtain ⟨first, last, rfl, hlength⟩ := String.Pos.Raw.isValid_iff_exists_append.1 hvalid
  have hfirst : front.length = first.toUTF8.toList.length := by
    rw [length_toUTF8]
    exact congrArg String.Pos.Raw.byteIdx hlength
  have hsplit : first.toUTF8.toList ++ last.toUTF8.toList = front ++ (t.toUTF8.toList ++ rest) := by
    rw [← h, toList_toUTF8, toList_toUTF8, toList_toUTF8, String.toList_append, List.flatMap_append]
  obtain ⟨hfront, hlast⟩ := List.append_inj hsplit hfirst.symm
  rw [toList_toUTF8, toList_toUTF8] at hlast
  obtain ⟨more, hmore, hrest⟩ := exists_of_flatMap_utf8EncodeChar hlast
  refine ⟨first.toList, more, ?_, ?_, hrest⟩
  · rw [String.toList_append, hmore]
  · rw [← hfront, toList_toUTF8]

theorem suffix_toUTF8_iff {s t : String} :
    t.toUTF8.toList <:+ s.toUTF8.toList ↔ t.toList <:+ s.toList := by
  constructor
  · rintro ⟨front, hfront⟩
    by_cases ht : t = ""
    · simp [ht]
    have hbytes : s.toUTF8.toList = front ++ (t.toUTF8.toList ++ []) := by
      rw [List.append_nil, hfront]
    obtain ⟨first, more, hs, -, hmore⟩ := exists_of_toUTF8_append ht hbytes
    have hnil : more = [] := by
      cases more with
      | nil => rfl
      | cons c more => simp [String.utf8EncodeChar_ne_nil] at hmore
    rw [hs, hnil, List.append_nil]
    exact List.suffix_append _ _
  · rintro ⟨front, hfront⟩
    rw [toList_toUTF8, toList_toUTF8, ← hfront, List.flatMap_append]
    exact List.suffix_append _ _

end Bytes

section Offsets

def byteOffset (cs : List Char) (n : ℕ) : ℕ := ((cs.take n).flatMap String.utf8EncodeChar).length

variable {cs : List Char} {m n offset : ℕ}

theorem byteOffset_zero (cs : List Char) : byteOffset cs 0 = 0 := rfl

theorem byteOffset_cons (c : Char) (cs : List Char) (n : ℕ) :
    byteOffset (c :: cs) (n + 1) = c.utf8Size + byteOffset cs n := by
  rw [byteOffset, List.take_succ_cons, List.flatMap_cons, List.length_append,
    String.length_utf8EncodeChar, byteOffset]

theorem utf8ByteSize_take (cs : List Char) (n : ℕ) :
    (String.ofList (cs.take n)).utf8ByteSize = byteOffset cs n := by
  rw [← length_toUTF8, toList_toUTF8, String.toList_ofList, byteOffset]

theorem byteOffset_length (s : String) : byteOffset s.toList s.toList.length = s.utf8ByteSize := by
  rw [byteOffset, List.take_length, ← toList_toUTF8, length_toUTF8]

theorem byteOffset_lt (h : m < n) (hn : n ≤ cs.length) : byteOffset cs m < byteOffset cs n := by
  induction cs generalizing m n with
  | nil =>
    rw [List.length_nil] at hn
    omega
  | cons c cs ih =>
    obtain ⟨n, rfl⟩ : ∃ k, n = k + 1 := ⟨n - 1, by omega⟩
    rw [List.length_cons] at hn
    have hc := c.utf8Size_pos
    rw [byteOffset_cons]
    cases m with
    | zero =>
      rw [byteOffset_zero]
      omega
    | succ m =>
      have hlt := ih (by omega : m < n) (by omega)
      rw [byteOffset_cons]
      omega

theorem byteOffset_lt_iff (hm : m ≤ cs.length) (hn : n ≤ cs.length) :
    byteOffset cs m < byteOffset cs n ↔ m < n := by
  refine ⟨?_, fun h ↦ byteOffset_lt h hn⟩
  intro h
  by_contra hle
  rcases (not_lt.1 hle).eq_or_lt with rfl | hlt
  · exact lt_irrefl _ h
  · exact lt_asymm h (byteOffset_lt hlt hm)

/-- The characters before a byte can be counted if one starts there, or if the text ends there. -/
theorem charactersBefore?_eq_some :
    charactersBefore? offset cs = some n ↔ n ≤ cs.length ∧ byteOffset cs n = offset := by
  fun_induction charactersBefore? offset cs generalizing n with
  | case1 cs =>
    constructor
    · intro h
      cases h
      exact ⟨Nat.zero_le _, rfl⟩
    · rintro ⟨hn, h⟩
      have hzero : ¬0 < n := by
        intro hpos
        have hlt := byteOffset_lt hpos hn
        rw [byteOffset_zero] at hlt
        omega
      rw [Nat.eq_zero_of_not_pos hzero]
  | case2 offset => simp [byteOffset]
  | case3 offset c rest hle ih =>
    cases n with
    | zero => simp [byteOffset_zero]
    | succ n =>
      have hmap : (charactersBefore? (offset + 1 - c.utf8Size) rest).map (· + 1) = some (n + 1) ↔
          charactersBefore? (offset + 1 - c.utf8Size) rest = some n := by
        simp [Option.map_eq_some_iff]
      rw [hmap, ih, byteOffset_cons, List.length_cons]
      omega
  | case4 offset c rest hlt =>
    cases n with
    | zero => simp [byteOffset_zero]
    | succ n =>
      rw [byteOffset_cons]
      have hne : c.utf8Size + byteOffset rest n ≠ offset + 1 := by omega
      simp [hne]

theorem isValid_iff {s : String} :
    String.Pos.Raw.IsValid s ⟨offset⟩ ↔ ∃ n ≤ s.toList.length, byteOffset s.toList n = offset := by
  rw [String.Pos.Raw.isValid_iff_exists_append]
  constructor
  · rintro ⟨first, last, rfl, hoffset⟩
    have hlength : offset = first.utf8ByteSize := congrArg String.Pos.Raw.byteIdx hoffset
    refine ⟨first.toList.length, ?_, ?_⟩
    · rw [String.toList_append, List.length_append]
      omega
    · rw [hlength, byteOffset, String.toList_append, List.take_left, ← toList_toUTF8, length_toUTF8]
  · rintro ⟨n, -, rfl⟩
    refine ⟨.ofList (s.toList.take n), .ofList (s.toList.drop n), ?_, ?_⟩
    · rw [← String.ofList_append, List.take_append_drop, String.ofList_toList]
    · exact String.Pos.Raw.ext (utf8ByteSize_take s.toList n).symm

end Offsets

section Order

theorem ofNat_lt_iff {m n : ℕ} (hm : m < 256) (hn : n < 256) :
    UInt8.ofNat m < UInt8.ofNat n ↔ m < n := by
  rw [UInt8.lt_iff_toNat_lt, UInt8.toNat_ofNat', UInt8.toNat_ofNat', Nat.mod_eq_of_lt hm,
    Nat.mod_eq_of_lt hn]

theorem ofNat_inj_iff {m n : ℕ} (hm : m < 256) (hn : n < 256) :
    UInt8.ofNat m = UInt8.ofNat n ↔ m = n := by
  rw [← UInt8.toNat_inj, UInt8.toNat_ofNat', UInt8.toNat_ofNat', Nat.mod_eq_of_lt hm,
    Nat.mod_eq_of_lt hn]

theorem digit_lt {m n : ℕ} (h : m < n) :
    m / 64 < n / 64 ∨ m / 64 = n / 64 ∧ m % 64 < n % 64 := by
  omega

theorem digits_lt {m n : ℕ} (h : m < n) :
    m / 262144 < n / 262144 ∨ m / 262144 = n / 262144 ∧
      (m / 4096 % 64 < n / 4096 % 64 ∨ m / 4096 % 64 = n / 4096 % 64 ∧
        (m / 64 % 64 < n / 64 % 64 ∨ m / 64 % 64 = n / 64 % 64 ∧ m % 64 < n % 64)) := by
  have hsecond (k : ℕ) : k / 64 / 64 = k / 4096 := by omega
  have hthird (k : ℕ) : k / 4096 / 64 = k / 262144 := by omega
  rcases digit_lt h with h | ⟨heq, h⟩
  · rcases digit_lt h with h | ⟨heq, h⟩
    · rw [hsecond, hsecond] at h
      rcases digit_lt h with h | ⟨heq, h⟩
      · rw [hthird, hthird] at h
        exact .inl h
      · rw [hthird, hthird] at heq
        exact .inr ⟨heq, .inl h⟩
    · rw [hsecond, hsecond] at heq
      exact .inr ⟨by rw [← hthird, heq, hthird], .inr ⟨by rw [heq], .inl h⟩⟩
  · have heq' : m / 4096 = n / 4096 := by rw [← hsecond, heq, hsecond]
    exact .inr ⟨by rw [← hthird, heq', hthird], .inr ⟨by rw [heq'], .inr ⟨by rw [heq], h⟩⟩⟩

/-- A longer character starts with a greater byte, and characters of the same length are in the
order of their digits. -/
theorem utf8EncodeChar_lt {c d : Char} (h : c < d) (x y : List UInt8) :
    String.utf8EncodeChar c ++ x < String.utf8EncodeChar d ++ y := by
  have hlt : c.val.toNat < d.val.toNat := h
  have hd : d.val.toNat < 0x110000 := by
    rcases d.valid with hd | hd <;> omega
  have hdigits := digits_lt hlt
  generalize hv : c.val.toNat = v at hlt hdigits
  generalize hw : d.val.toNat = w at hlt hd hdigits
  have hv₀ : v / 262144 % 8 = v / 262144 := Nat.mod_eq_of_lt (by omega)
  have hw₀ : w / 262144 % 8 = w / 262144 := Nat.mod_eq_of_lt (by omega)
  simp only [String.utf8EncodeChar, hv, hw]
  split_ifs <;>
    simp only [List.cons_append, List.cons_lt_cons_iff] <;>
    simp (disch := omega) only [ofNat_lt_iff, ofNat_inj_iff] <;> omega

theorem flatMap_utf8EncodeChar_lt {cs ds : List Char} (h : cs < ds) :
    cs.flatMap String.utf8EncodeChar < ds.flatMap String.utf8EncodeChar := by
  induction cs generalizing ds with
  | nil =>
    cases ds with
    | nil => exact absurd h (lt_irrefl _)
    | cons d ds =>
      obtain ⟨b, bytes, hd⟩ := List.exists_cons_of_ne_nil (@String.utf8EncodeChar_ne_nil d)
      rw [List.flatMap_nil, List.flatMap_cons, hd]
      exact List.nil_lt_cons _ _
  | cons c cs ih =>
    cases ds with
    | nil => exact absurd h (by simp)
    | cons d ds =>
      rw [List.flatMap_cons, List.flatMap_cons]
      rcases List.cons_lt_cons_iff.1 h with hlt | ⟨rfl, hlt⟩
      · exact utf8EncodeChar_lt hlt _ _
      · exact List.append_left_lt (ih hlt)

theorem compare_isLE_iff {s t : String} :
    (compare s t).isLE = true ↔ s.toUTF8.toList ≤ t.toUTF8.toList := by
  have hlt {s t : String} (h : s < t) : s.toUTF8.toList < t.toUTF8.toList := by
    rw [toList_toUTF8, toList_toUTF8]
    exact flatMap_utf8EncodeChar_lt (String.lt_iff_toList_lt.1 h)
  rw [Std.LawfulBCmp.isLE_iff_le]
  constructor
  · intro h
    rcases h.eq_or_lt with rfl | h
    · exact List.le_refl _
    · exact List.le_of_lt (hlt h)
  · intro h
    by_contra hst
    exact List.not_lt.2 h (hlt (not_le.1 hst))

end Order

end LintEngine.Text
