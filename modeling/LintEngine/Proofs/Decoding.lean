import LintEngine.Proofs.Encoding
import LintEngine.Text.Encoding

namespace LintEngine.Text

variable {a b c d : UInt8} {index : ℕ} {bytes rest : List UInt8} {chars : List Char}

section Sequences

theorem isContinuation_iff : isContinuation b = true ↔ 128 ≤ b.toNat ∧ b.toNat ≤ 191 := by
  simp [isContinuation, UInt8.le_iff_toNat_le]

theorem validSecondOfThree_iff : validSecondOfThree a b = true ↔
    (128 ≤ b.toNat ∧ b.toNat ≤ 191) ∧ (a.toNat = 0xE0 → 0xA0 ≤ b.toNat) ∧
      (a.toNat = 0xED → b.toNat ≤ 0x9F) := by
  unfold validSecondOfThree
  split_ifs with h h' <;> rw [beq_iff_eq, ← UInt8.toNat_inj] at * <;>
    simp only [isContinuation_iff, Bool.and_eq_true, decide_eq_true_eq, UInt8.le_iff_toNat_le,
      UInt8.reduceToNat] at * <;> omega

theorem validSecondOfFour_iff : validSecondOfFour a b = true ↔
    (128 ≤ b.toNat ∧ b.toNat ≤ 191) ∧ (a.toNat = 0xF0 → 0x90 ≤ b.toNat) ∧
      (a.toNat = 0xF4 → b.toNat ≤ 0x8F) := by
  unfold validSecondOfFour
  split_ifs with h h' <;> rw [beq_iff_eq, ← UInt8.toNat_inj] at * <;>
    simp only [isContinuation_iff, Bool.and_eq_true, decide_eq_true_eq, UInt8.le_iff_toNat_le,
      UInt8.reduceToNat] at * <;> omega

theorem toNat_val_ofNat {n : ℕ} (h : n < 0xD800 ∨ 0xDFFF < n ∧ n < 0x110000) :
    (Char.ofNat n).val.toNat = n := by
  have hv : n.isValidChar := h
  rw [Char.ofNat, dif_pos hv]
  rfl

theorem ofNat_eq {n : ℕ} (h : n = a.toNat) : UInt8.ofNat n = a := by
  rw [h, UInt8.ofNat_toNat]

theorem utf8EncodeChar_one (ha : a.toNat < 128) :
    String.utf8EncodeChar (Char.ofNat a.toNat) = [a] := by
  have hv : (Char.ofNat a.toNat).val.toNat = a.toNat := toNat_val_ofNat (.inl (by omega))
  simp only [String.utf8EncodeChar, hv]
  rw [if_pos (by omega), UInt8.ofNat_toNat]

theorem utf8EncodeChar_two (ha : 0xC2 ≤ a.toNat ∧ a.toNat ≤ 0xDF)
    (hb : isContinuation b = true) :
    String.utf8EncodeChar (Char.ofNat (a.toNat % 32 * 64 + continuationBits b)) = [a, b] := by
  rw [isContinuation_iff] at hb
  unfold continuationBits
  have hv : (Char.ofNat (a.toNat % 32 * 64 + b.toNat % 64)).val.toNat =
      a.toNat % 32 * 64 + b.toNat % 64 := toNat_val_ofNat (.inl (by omega))
  simp only [String.utf8EncodeChar, hv]
  rw [if_neg (by omega), if_pos (by omega), ofNat_eq (a := a) (by omega),
    ofNat_eq (a := b) (by omega)]

theorem utf8EncodeChar_three (ha : 0xE0 ≤ a.toNat ∧ a.toNat ≤ 0xEF)
    (hb : validSecondOfThree a b = true) (hc : isContinuation c = true) :
    String.utf8EncodeChar (Char.ofNat
      ((a.toNat % 16 * 64 + continuationBits b) * 64 + continuationBits c)) = [a, b, c] := by
  rw [isContinuation_iff] at hc
  rw [validSecondOfThree_iff] at hb
  unfold continuationBits
  have hv : (Char.ofNat ((a.toNat % 16 * 64 + b.toNat % 64) * 64 + c.toNat % 64)).val.toNat =
      (a.toNat % 16 * 64 + b.toNat % 64) * 64 + c.toNat % 64 := toNat_val_ofNat (by omega)
  simp only [String.utf8EncodeChar, hv]
  rw [if_neg (by omega), if_neg (by omega), if_pos (by omega), ofNat_eq (a := a) (by omega),
    ofNat_eq (a := b) (by omega), ofNat_eq (a := c) (by omega)]

theorem utf8EncodeChar_four (ha : 0xF0 ≤ a.toNat ∧ a.toNat ≤ 0xF4)
    (hb : validSecondOfFour a b = true) (hc : isContinuation c = true)
    (hd : isContinuation d = true) :
    String.utf8EncodeChar (Char.ofNat
      (((a.toNat % 8 * 64 + continuationBits b) * 64 + continuationBits c) * 64 +
        continuationBits d)) = [a, b, c, d] := by
  rw [isContinuation_iff] at hc hd
  rw [validSecondOfFour_iff] at hb
  unfold continuationBits
  have hv : (Char.ofNat
      (((a.toNat % 8 * 64 + b.toNat % 64) * 64 + c.toNat % 64) * 64 + d.toNat % 64)).val.toNat =
      ((a.toNat % 8 * 64 + b.toNat % 64) * 64 + c.toNat % 64) * 64 + d.toNat % 64 :=
    toNat_val_ofNat (by omega)
  simp only [String.utf8EncodeChar, hv]
  rw [if_neg (by omega), if_neg (by omega), if_neg (by omega), ofNat_eq (a := a) (by omega),
    ofNat_eq (a := b) (by omega), ofNat_eq (a := c) (by omega), ofNat_eq (a := d) (by omega)]

end Sequences

section Decoding

theorem lead_iff {low high : UInt8} : (decide (low ≤ a) && decide (a ≤ high)) = true ↔
    low.toNat ≤ a.toNat ∧ a.toNat ≤ high.toNat := by
  simp [UInt8.le_iff_toNat_le]

theorem map_cons_eq_ok {ch : Char} {r : Except EncodingFault (List Char)} :
    r.map (ch :: ·) = .ok chars ↔ ∃ more, r = .ok more ∧ chars = ch :: more := by
  cases r <;> simp [Except.map, eq_comm]

theorem flatMap_of_decodeFrom (h : decodeFrom index bytes = .ok chars) :
    chars.flatMap String.utf8EncodeChar = bytes := by
  fun_induction decodeFrom index bytes generalizing chars with
  | case1 =>
    cases h
    rfl
  | case2 index a rest ha ih =>
    obtain ⟨more, hmore, rfl⟩ := map_cons_eq_ok.1 h
    rw [List.flatMap_cons, utf8EncodeChar_one (UInt8.lt_iff_toNat_lt.1 ha), ih hmore]
    rfl
  | case4 index a _ ha b rest hb ih =>
    obtain ⟨more, hmore, rfl⟩ := map_cons_eq_ok.1 h
    rw [List.flatMap_cons, utf8EncodeChar_two (lead_iff.1 ha) hb, ih hmore]
    rfl
  | case8 index a _ _ ha b hb c rest hc ih =>
    obtain ⟨more, hmore, rfl⟩ := map_cons_eq_ok.1 h
    rw [List.flatMap_cons, utf8EncodeChar_three (lead_iff.1 ha) hb hc, ih hmore]
    rfl
  | case14 index a _ _ _ ha b hb c hc d rest hd ih =>
    obtain ⟨more, hmore, rfl⟩ := map_cons_eq_ok.1 h
    rw [List.flatMap_cons, utf8EncodeChar_four (lead_iff.1 ha) hb hc hd, ih hmore]
    rfl
  | _ => cases h

theorem decodeFrom_one (ha : a.toNat < 128) : decodeFrom index (a :: rest) =
    (decodeFrom (index + 1) rest).map (Char.ofNat a.toNat :: ·) := by
  rw [decodeFrom.eq_def]
  simp only [UInt8.lt_iff_toNat_lt, UInt8.reduceToNat, if_pos ha]

theorem decodeFrom_two (ha : 0xC2 ≤ a.toNat ∧ a.toNat ≤ 0xDF) (hb : isContinuation b = true) :
    decodeFrom index (a :: b :: rest) = (decodeFrom (index + 2) rest).map
      (Char.ofNat (a.toNat % 32 * 64 + continuationBits b) :: ·) := by
  rw [decodeFrom.eq_def]
  simp only [UInt8.lt_iff_toNat_lt, lead_iff, UInt8.reduceToNat, hb, if_true]
  rw [if_neg (by omega), if_pos (by omega)]

theorem decodeFrom_three (ha : 0xE0 ≤ a.toNat ∧ a.toNat ≤ 0xEF)
    (hb : validSecondOfThree a b = true) (hc : isContinuation c = true) :
    decodeFrom index (a :: b :: c :: rest) = (decodeFrom (index + 3) rest).map
      (Char.ofNat ((a.toNat % 16 * 64 + continuationBits b) * 64 + continuationBits c) :: ·) := by
  rw [decodeFrom.eq_def]
  simp only [UInt8.lt_iff_toNat_lt, lead_iff, UInt8.reduceToNat, hb, hc, if_true]
  rw [if_neg (by omega), if_neg (by omega), if_pos (by omega)]

theorem decodeFrom_four (ha : 0xF0 ≤ a.toNat ∧ a.toNat ≤ 0xF4)
    (hb : validSecondOfFour a b = true) (hc : isContinuation c = true)
    (hd : isContinuation d = true) :
    decodeFrom index (a :: b :: c :: d :: rest) = (decodeFrom (index + 4) rest).map
      (Char.ofNat (((a.toNat % 8 * 64 + continuationBits b) * 64 + continuationBits c) * 64 +
        continuationBits d) :: ·) := by
  rw [decodeFrom.eq_def]
  simp only [UInt8.lt_iff_toNat_lt, lead_iff, UInt8.reduceToNat, hb, hc, hd, if_true]
  rw [if_neg (by omega), if_neg (by omega), if_neg (by omega), if_pos (by omega)]

/-- The bytes of a character are read as that character, wherever they stand. -/
theorem decodeFrom_utf8EncodeChar (index : ℕ) (ch : Char) (rest : List UInt8) :
    ∃ next, decodeFrom index (String.utf8EncodeChar ch ++ rest) =
      (decodeFrom next rest).map (ch :: ·) := by
  have hch : Char.ofNat ch.val.toNat = ch := Char.ofNat_toNat ch
  have hvalid : ch.val.toNat < 0xD800 ∨ 0xDFFF < ch.val.toNat ∧ ch.val.toNat < 0x110000 := ch.valid
  have hbyte (n : ℕ) (h : n < 256) : (UInt8.ofNat n).toNat = n := Nat.mod_eq_of_lt h
  simp only [String.utf8EncodeChar]
  generalize ch.val.toNat = v at hch hvalid
  -- The last byte, the one before it and so on hold the digits of the number in base 64.
  have h₀ := hbyte (v % 64 + 128) (by omega)
  have h₁ := hbyte (v / 64 % 64 + 128) (by omega)
  have h₂ := hbyte (v / 4096 % 64 + 128) (by omega)
  generalize UInt8.ofNat (v % 64 + 128) = b₀ at h₀
  generalize UInt8.ofNat (v / 64 % 64 + 128) = b₁ at h₁
  generalize UInt8.ofNat (v / 4096 % 64 + 128) = b₂ at h₂
  have hc₀ : isContinuation b₀ = true := isContinuation_iff.2 (by omega)
  have hc₁ : isContinuation b₁ = true := isContinuation_iff.2 (by omega)
  have hc₂ : isContinuation b₂ = true := isContinuation_iff.2 (by omega)
  split_ifs
  · have ha := hbyte v (by omega)
    refine ⟨index + 1, ?_⟩
    rw [List.singleton_append, decodeFrom_one (by omega), ha, hch]
  · have ha := hbyte (v / 64 % 32 + 192) (by omega)
    generalize UInt8.ofNat (v / 64 % 32 + 192) = a at ha
    have hv : a.toNat % 32 * 64 + continuationBits b₀ = v := by
      unfold continuationBits
      omega
    exact ⟨index + 2, by rw [← hch, ← hv, ← decodeFrom_two (by omega) hc₀]; rfl⟩
  · have ha := hbyte (v / 4096 % 16 + 224) (by omega)
    generalize UInt8.ofNat (v / 4096 % 16 + 224) = a at ha
    have hv : (a.toNat % 16 * 64 + continuationBits b₁) * 64 + continuationBits b₀ = v := by
      unfold continuationBits
      omega
    have hb : validSecondOfThree a b₁ = true := validSecondOfThree_iff.2 (by omega)
    exact ⟨index + 3, by rw [← hch, ← hv, ← decodeFrom_three (by omega) hb hc₀]; rfl⟩
  · have ha := hbyte (v / 262144 % 8 + 240) (by omega)
    generalize UInt8.ofNat (v / 262144 % 8 + 240) = a at ha
    have hv : ((a.toNat % 8 * 64 + continuationBits b₂) * 64 + continuationBits b₁) * 64 +
        continuationBits b₀ = v := by
      unfold continuationBits
      omega
    have hb : validSecondOfFour a b₂ = true := validSecondOfFour_iff.2 (by omega)
    exact ⟨index + 4, by rw [← hch, ← hv, ← decodeFrom_four (by omega) hb hc₁ hc₀]; rfl⟩

theorem decodeFrom_flatMap (index : ℕ) (chars : List Char) :
    decodeFrom index (chars.flatMap String.utf8EncodeChar) = .ok chars := by
  induction chars generalizing index with
  | nil => rfl
  | cons ch chars ih =>
    obtain ⟨next, hnext⟩ :=
      decodeFrom_utf8EncodeChar index ch (chars.flatMap String.utf8EncodeChar)
    rw [List.flatMap_cons, hnext, ih]
    rfl

end Decoding

/-- Bytes are read as a text if they are its bytes, and as no other one. -/
theorem decode_eq_ok {bytes : ByteArray} {text : String} :
    decode bytes = .ok text ↔ bytes = text.toUTF8 := by
  have hbytes : bytes = text.toUTF8 ↔ bytes.toList = text.toList.flatMap String.utf8EncodeChar := by
    rw [← toList_toUTF8, toList_eq, toList_eq, Array.toList_inj]
    exact ByteArray.ext_iff
  rw [hbytes]
  constructor
  · intro h
    cases hd : decodeFrom 0 bytes.toList with
    | error fault =>
      rw [decode, hd] at h
      cases h
    | ok chars =>
      rw [decode, hd] at h
      cases h
      rw [String.toList_ofList, flatMap_of_decodeFrom hd]
  · intro h
    rw [decode, h, decodeFrom_flatMap]
    exact congrArg Except.ok String.ofList_toList

theorem decode_toUTF8 (text : String) : decode text.toUTF8 = .ok text :=
  decode_eq_ok.2 rfl

theorem decode_eq_error {bytes : ByteArray} :
    (∃ fault, decode bytes = .error fault) ↔ ∀ text : String, bytes ≠ text.toUTF8 := by
  constructor
  · rintro ⟨fault, hfault⟩ text htext
    rw [decode_eq_ok.2 htext] at hfault
    cases hfault
  · intro h
    cases hd : decode bytes with
    | error fault => exact ⟨fault, rfl⟩
    | ok text => exact absurd (decode_eq_ok.1 hd) (h text)

end LintEngine.Text
